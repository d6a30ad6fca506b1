/-
**Slots that are rewritten.**

Whether a slot is switched off is known to the slot alone. A change of the vectored table writes the
places from the one that is given up to the one that is taken, and loads their slots: the lines
between the two move by one place, and each of them finds its new slot enabled. A line that stays in
its place has its slot left alone.

* `Table.Lists.mem_changeWrites_iff`: a change writes the place of another line exactly if it moves
  the line there;
* `Operation.slots_after`: what a change leaves in the slots;
* `slot_enabled_iff_moved`: what becomes of a slot that was switched off.
-/

import VectoredInterrupts.Proofs.Runs

namespace VectoredInterrupts

/-! ### The writes of a change -/

namespace Table

variable {α : Type} [Inhabited α]

/-- The writes that a change makes. -/
def changeWrites (table : Table α) : Change α → List (Write α)
  | .bind line payload priority =>
    if line < lineCount then
      (table.insert (.binding line (priority &&& priorityMask) payload)).writes
    else []
  | .release line => (table.remove line).writes
  | .clear => clearWrites

theorem change_eq_apply (table : Table α) (change : Change α) :
    table.change change = table.apply (table.changeWrites change) := by
  cases change with
  | bind line payload priority =>
    rw [Table.change, changeWrites]
    split <;> rfl
  | release line => rfl
  | clear => rfl

namespace Lists

variable {table : Table α} {bindings : List (Binding α)}

/-- An insertion moves an entry inside the table. -/
theorem insertWrites_eq (lists : table.Lists bindings) (descending : Descending bindings)
    (new : Binding α) :
    ∃ source target, source < 32 ∧ target < 32 ∧
      table.insertWrites new.entry = table.moveWrites source target new.entry := by
  exact ⟨table.vacated (some new.line), table.destination new.entry, (lists.vacated_le _).2,
    lists.destination_lt descending new, rfl⟩

/-- A change that spares a line moves an entry that is not of this line, if it writes at all. -/
theorem changeWrites_eq (lists : table.Lists (arranged bindings)) {change : Change α} {line : Nat}
    (spares : change.ends line = false) :
    table.changeWrites change = [] ∨
      ∃ source target entry, source < 32 ∧ target < 32 ∧ entry.line ≠ some line ∧
        table.changeWrites change = table.moveWrites source target entry := by
  cases change with
  | bind other payload priority =>
    rw [changeWrites]
    by_cases small : other < lineCount
    · rw [if_pos small]
      obtain ⟨source, target, source_lt, target_lt, moves⟩ := lists.insertWrites_eq
        (arranged_descending bindings) ⟨other, priority &&& priorityMask, payload⟩
      refine .inr ⟨source, target, _, source_lt, target_lt, fun same => ?_, moves⟩
      exact beq_eq_false_iff_ne.mp spares (Option.some.inj same)
    · exact .inl (if_neg small)
  | release other =>
    rw [changeWrites]
    unfold Table.remove
    cases found : table.position other with
    | none => exact .inl rfl
    | some index =>
      exact .inr ⟨index, 31, Entry.vacant, position_lt found, by decide, nofun, rfl⟩
  | clear => cases spares

/-- **Which lines move.** The place where a line is after a change that spares it is written exactly
if the line was at another one. -/
theorem mem_changeWrites_iff (lists : table.Lists (arranged bindings))
    (distinct : Distinct bindings) {change : Change α} {line place later : Nat}
    (spares : change.ends line = false) (before : table.position line = some place)
    (after : (table.change change).position line = some later) :
    later ∈ (table.changeWrites change).map Write.index ↔ later ≠ place := by
  have at_place : ∀ {index}, (table.get index).line = some line → index = place := fun bound =>
    Option.some.inj ((lists.position_of_line_get distinct.arranged bound).symm.trans before)
  have bound := line_get_of_position after
  rw [change_eq_apply] at bound
  by_cases written : later ∈ (table.changeWrites change).map Write.index
  · refine iff_of_true written ?_
    rcases lists.changeWrites_eq spares with nothing | ⟨source, target, entry, source_lt,
      target_lt, other, moves⟩
    · rw [nothing] at written
      cases written
    · rw [moves] at bound written
      rw [get_moveWrites table source_lt target_lt, if_pos written, moved] at bound
      have between := mem_index_moveWrites.mp written
      -- the line came from the place next to this one
      by_cases last : later = target
      · rw [if_pos last] at bound
        exact absurd bound other
      · rw [if_neg last] at bound
        split at bound
        · have from_below := at_place bound
          omega
        · have from_above := at_place bound
          omega
  · refine iff_of_false written (not_not.mpr ?_)
    rw [get_apply_of_not_mem written] at bound
    exact at_place bound

end Lists

end Table

/-! ### Slots after a change -/

section Slots

variable {β γ α : Type} [RegisterBank β] [SlotBank β]

/-- The slots that a list of writes to the table leaves. -/
def System.Loaded (writes : List (Write Routine)) (before after : System β γ) : Prop :=
  ∀ k : Fin 16, SlotBank.slot after.machine.bank k =
    if k.val ∈ writes.map Write.index then
      SlotBank.loaded β ((before.vectored.apply writes).get k)
    else SlotBank.slot before.machine.bank k

theorem Run.updateVectored_loaded (update : Update Routine α) (system : System β γ) :
    system.Loaded update.writes (stateAfter (Run.updateVectored update) system) := by
  obtain ⟨machine, returns, slots⟩ := Run.forM_writeVectored_ok update.writes system
  refine Maintains.after_bind (system.Loaded update.writes) ?_ fun _ => .checked _
  rw [stateAfter_ok returns]
  exact slots

/-- **The slots after a change.** -/
theorem Operation.slots_after (call : Nat → Handler → Run β γ Unit) {op : Operation}
    {change : Change Routine} (asked : op.vectoredChange? = some change) (setUp : op ≠ .init)
    (system : System β γ) :
    system.Loaded (system.vectored.changeWrites change) (stateAfter (op.perform call) system) := by
  have logs : ∀ writes notice, Maintains (system.Loaded writes)
      (Run.onMachine (Bus.log notice) : Run β γ Unit) := by
    intro writes notice after loaded
    rw [stateAfter_ok (Run.log_ok notice after)]
    show ∀ k, SlotBank.slot (after.machine.logged notice).bank k = _
    rwa [Machine.logged_bank]
  have updates : ∀ {ρ : Type} (update : Update Routine ρ),
      system.Loaded update.writes (stateAfter (Run.updateVectored update) system) :=
    fun update => Run.updateVectored_loaded update system
  cases op with
  | bindVectored line routine priority =>
    obtain rfl := Option.some.inj asked
    refine Maintains.after_bind (system.Loaded _) ?_ fun _ => .pure _
    rw [Table.changeWrites]
    by_cases small : line < lineCount
    · rw [if_pos small, Run.bindVectored, if_pos small, stateAfter_get]
      exact Maintains.after_bind (system.Loaded _) (updates (system.vectored.insert _)) fun _ =>
        (logs _ _).bind fun _ => .pure _
    · rw [if_neg small, stateAfter_ok (Run.bindVectored_refused small)]
      show ∀ k, SlotBank.slot (system.machine.logged _).bank k = _
      rw [Machine.logged_bank]
      exact fun _ => rfl
  | releaseVectored line =>
    obtain rfl := Option.some.inj asked
    refine Maintains.after_bind (system.Loaded _) ?_ fun _ => .pure _
    rw [Run.releaseVectored, stateAfter_get]
    refine Maintains.after_bind (system.Loaded _) (updates (system.vectored.remove line))
      fun position => ?_
    cases position with
    | none => exact .pure _
    | some position => exact logs _ _
  | releaseAllVectored =>
    obtain rfl := Option.some.inj asked
    refine Maintains.after_bind (system.Loaded _) ?_ fun _ => .pure _
    exact Maintains.after_bind (system.Loaded _) (updates Table.clear) fun _ => logs _ _
  | clearVectored =>
    obtain rfl := Option.some.inj asked
    exact Maintains.after_bind (system.Loaded _) (updates Table.clear) fun _ => .pure _
  | init => exact absurd rfl setUp
  | setMode | handleIrq | bindPolled | releasePolled | clearPolled | servicePolled | polledPosition
  | serviceUnslotted | vectoredPosition | enableSlot | disableSlot | disableAllSlots => cases asked

end Slots

/-- **Slots that were switched off.** After any run that begins with setting up, let a line be bound
at a place that has a slot, and the slot be switched off. When another line is bound or released,
and the line still has a slot, this slot is enabled exactly if it is a different one. -/
theorem slot_enabled_iff_moved {γ : Type} [StatusRegister γ] (handlers : Handlers Simulated γ)
    (requests : List (Request Simulated.BenchAction)) (start : System Simulated γ) (op : Operation)
    (change : Change Routine) (asked : op.vectoredChange? = some change) (line : Nat)
    (spares : change.ends line = false) (k : Fin 16)
    (bound : (handlers.carryOut (.operation .init :: requests) start).vectored.position line =
      some k.val)
    (off : ((handlers.carryOut (.operation .init :: requests) start).machine.bank.slots.get
      k).isEnabled = false) :
    ∃ reply after, op.perform handlers.call
        (handlers.carryOut (.operation .init :: requests) start) = .ok reply after ∧
      ∀ later : Fin 16, after.vectored.position line = some later.val →
        ((after.machine.bank.slots.get later).isEnabled = true ↔ later ≠ k) := by
  have setUp : op ≠ .init := by
    rintro rfl
    obtain rfl := Option.some.inj asked
    cases spares
  have lists := handlers.carryOut_init_vectored requests start
  have distinct := live_distinct (requests.filterMap Request.vectoredChange?)
  have inRange := live_inRange (requests.filterMap Request.vectoredChange?)
  generalize handlers.carryOut (.operation .init :: requests) start = reached at *
  generalize live (requests.filterMap Request.vectoredChange?) = bindings at *
  have small : line < lineCount :=
    lists.linesExist inRange.arranged k line (Table.line_get_of_position bound)
  rcases Operation.perform_vectored handlers.call asked setUp lists distinct inRange with
    ⟨reply, after, returns, ⟨machine, rfl⟩, -⟩ | ⟨fault, -, -, raised⟩
  · refine ⟨reply, _, returns, fun later still => ?_⟩
    have slots := Operation.slots_after handlers.call asked setUp reached later
    rw [stateAfter_ok returns, ← Table.change_eq_apply] at slots
    have written := lists.mem_changeWrites_iff distinct spares bound still
    by_cases same : later = k
    · -- the slot has been left alone
      subst same
      rw [if_neg fun member => written.mp member rfl] at slots
      have kept : machine.bank.slots.get later = reached.machine.bank.slots.get later := slots
      refine iff_of_false (fun enabled => ?_) (not_not.mpr rfl)
      exact Bool.false_ne_true (off.symm.trans ((congrArg Slot.isEnabled kept).symm.trans enabled))
    · -- the entry of the line has been loaded into the slot
      have entry : ((reached.vectored.change change).get later).line = some line :=
        Table.line_get_of_position still
      rw [if_pos (written.mpr fun equal => same (Fin.ext equal))] at slots
      have loaded : machine.bank.slots.get later = SlotBank.loaded Simulated _ := slots
      refine iff_of_true ?_ same
      rw [loaded]
      refine (enabledBy_loaded fun other bound => ?_).2 (by rw [entry]; rfl)
      exact Option.some.inj (entry.symm.trans bound) ▸ small
  · exact absurd raised (SlotBank.not_slotFault fault)

/-- Line 4 is switched off in slot 0, and line 5 goes in front of it. -/
theorem slot_enabled_iff_moved_behind :
    ∃ reply after,
      Operation.perform ((Firmware.idle : Firmware Simulated.BenchAction).handlers 1).call
        (.bindVectored 5 .dummy 9)
        (((Firmware.idle : Firmware Simulated.BenchAction).handlers 1).carryOut
          ([.operation .init, .operation (.bindVectored 4 .dummy 5), .operation (.disableSlot 4)] :
            List (Request Simulated.BenchAction)) (System.fresh (.atPowerUp Simulated.powerUp))) =
        .ok reply after ∧
      ∀ later : Fin 16, after.vectored.position 4 = some later.val →
        ((after.machine.bank.slots.get later).isEnabled = true ↔ later ≠ 0) :=
  slot_enabled_iff_moved _
    ([.operation (.bindVectored 4 .dummy 5), .operation (.disableSlot 4)] :
      List (Request Simulated.BenchAction)) _ (.bindVectored 5 .dummy 9) _ rfl 4 rfl 0
    (by decide +kernel) (by decide +kernel)

/-- **A slot that was switched off need not stay so:** that of line 4, when line 5 is bound. -/
theorem slot_not_kept_off :
    ¬ ∀ (requests : List (Request Simulated.BenchAction)) (op : Operation) (change : Change Routine)
        (line : Nat) (k later : Fin 16),
      let handlers : Handlers Simulated ControlField :=
        (Firmware.idle : Firmware Simulated.BenchAction).handlers 1
      let before := handlers.carryOut (.operation .init :: requests)
        (System.fresh (.atPowerUp .powerUp))
      let after := stateAfter (op.perform handlers.call) before
      op.vectoredChange? = some change → change.ends line = false →
        before.vectored.position line = some k.val →
        (before.machine.bank.slots.get k).isEnabled = false →
        after.vectored.position line = some later.val →
          (after.machine.bank.slots.get later).isEnabled = false := by
  intro kept
  have off := kept [.operation (.bindVectored 4 .dummy 5), .operation (.disableSlot 4)]
    (.bindVectored 5 .dummy 9) (.bind 5 .dummy 9) 4 0 1 rfl rfl (by decide +kernel)
    (by decide +kernel) (by decide +kernel)
  exact absurd off (by decide +kernel)

end VectoredInterrupts
