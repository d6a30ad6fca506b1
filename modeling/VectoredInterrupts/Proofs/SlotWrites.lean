/-
**Which slot registers a change writes.**

The slots follow the list of writes to the vectored table, so a change of the table reaches the
registers of exactly the slots that it sweeps over (`System.Mirrors`): the control register and
then the address register of each of them, with the slot enabled if its place is in use now. The
registers of all other slots are not accessed, and a slot that was switched off stays so.

`writes_reported`: where the writes to a table begin and end, and what becomes of the slots.
-/

import VectoredInterrupts.Proofs.Rewrites
import VectoredInterrupts.Proofs.Table.Reports

namespace VectoredInterrupts

/-- The register accesses that come with a write to the vectored table. -/
def Write.slotAccesses (write : Write Routine) : List Event :=
  if write.index < slotCount then
    [.wrote (Offset.slotControl write.index) write.entry.slotWords.1,
      .wrote (Offset.slotAddress write.index) write.entry.slotWords.2.address]
  else []

section Accesses

variable {β γ α : Type} [RegisterBank β] [SlotBank β]

/-- The writes have been made to the vectored table and to the slots, and nothing else has. -/
structure System.Mirrors (before after : System β γ) (writes : List (Write Routine)) : Prop where
  vectored : after.vectored = before.vectored.apply writes
  /-- The slots of the writes, in order, and no other registers. -/
  accesses : ∃ notices : List Notice, after.machine.trace.toList =
    before.machine.trace.toList ++ writes.flatMap Write.slotAccesses ++ notices.map .logged
  /-- A slot that is written serves the entry of its place, and is enabled if that is in use. -/
  written : ∀ k : Fin 16, k.val ∈ writes.map Write.index →
    (after.vectored.get k).EnabledBy (SlotBank.keepAddress β) (SlotBank.slot after.machine.bank k)
  /-- Both registers of any other slot are as they were. -/
  spared : ∀ k : Fin 16, k.val ∉ writes.map Write.index →
    SlotBank.slot after.machine.bank k = SlotBank.slot before.machine.bank k

/-- Notices do not matter. -/
theorem System.Mirrors.logged {before after : System β γ} {writes : List (Write Routine)}
    (mirrors : before.Mirrors after writes) (notice : Notice) :
    before.Mirrors { after with machine := after.machine.logged notice } writes := by
  obtain ⟨vectored, ⟨notices, trace⟩, written, spared⟩ := mirrors
  refine ⟨vectored, ?_, fun k => ?_, fun k => ?_⟩
  · unfold Machine.logged
    split
    · refine ⟨notices ++ [notice], ?_⟩
      rw [Array.toList_push, trace, List.map_append, List.append_assoc _ (notices.map _)]
      rfl
    · exact ⟨notices, trace⟩
  · rw [Machine.logged_bank]
    exact written k
  · rw [Machine.logged_bank]
    exact spared k

theorem System.Mirrors.refl (system : System β γ) : system.Mirrors system [] :=
  ⟨rfl, ⟨[], by simp⟩, fun _ member => absurd member List.not_mem_nil, fun _ _ => rfl⟩

theorem Bus.loadSlot_traced (write : Write Routine) (machine : Machine β γ) :
    (stateAfter (Bus.loadSlot write.index write.entry) machine).trace.toList =
      machine.trace.toList ++ write.slotAccesses := by
  unfold Write.slotAccesses
  by_cases inside : write.index < slotCount
  · obtain ⟨middle, control, -⟩ :=
      SlotBank.write_control ⟨write.index, inside⟩ write.entry.slotWords.1 machine.bank
    obtain ⟨after, address, -⟩ :=
      SlotBank.write_address ⟨write.index, inside⟩ write.entry.slotWords.2.address middle
    rw [if_pos inside, Bus.loadSlot_eq inside, stateAfter_bind (Bus.write_ok control),
      stateAfter_ok (Bus.write_ok address), Array.toList_push, Array.toList_push, List.append_assoc]
    rfl
  · rw [if_neg inside, Bus.loadSlot_outside inside, List.append_nil]
    rfl

theorem Run.writeVectored_traced (write : Write Routine) (system : System β γ) :
    (stateAfter (Run.writeVectored write) system).machine.trace.toList =
      system.machine.trace.toList ++ write.slotAccesses := by
  rw [Run.writeVectored, stateAfter_modify, Run.stateAfter_onMachine]
  exact Bus.loadSlot_traced write system.machine

/-- **The accesses of a list of writes** are those of its writes, one after another. -/
theorem Run.forM_writeVectored_traced (writes : List (Write Routine)) (system : System β γ) :
    (stateAfter (writes.forM Run.writeVectored) system).machine.trace.toList =
      system.machine.trace.toList ++ writes.flatMap Write.slotAccesses := by
  induction writes generalizing system with
  | nil => exact (List.append_nil _).symm
  | cons write rest ih =>
    obtain ⟨machine, returns, -⟩ := Run.writeVectored_ok write system
    have first := Run.writeVectored_traced write system
    rw [stateAfter_ok returns] at first
    rw [List.forM, stateAfter_bind returns, ih, first, List.flatMap_cons, List.append_assoc]

/-- An update that leaves lines behind which exist makes its writes and answers. -/
theorem Run.updateVectored_mirrors {update : Update Routine α} {answer : α}
    (answered : update.answer = .ok answer) {system : System β γ}
    (exist : (system.vectored.apply update.writes).LinesExist) :
    ∃ after, Run.updateVectored update system = .ok answer after ∧
      system.Mirrors after update.writes := by
  obtain ⟨machine, returns, slots⟩ := Run.forM_writeVectored_ok update.writes system
  have trace := Run.forM_writeVectored_traced update.writes system
  rw [stateAfter_ok returns] at trace
  refine ⟨{ system with machine, vectored := system.vectored.apply update.writes }, ?_, rfl,
    ⟨[], ?_⟩, fun k member => ?_, fun k unwritten => ?_⟩
  · rw [Run.updateVectored, bind_ok returns, answered]
    rfl
  · rw [List.map_nil, List.append_nil]
    exact trace
  · rw [slots, if_pos member]
    exact enabledBy_loaded (exist k)
  · rw [slots, if_neg unwritten]

end Accesses

/-! ### Binding and releasing -/

section Registry

variable {β γ : Type} [RegisterBank β] [SlotBank β] {system : System β γ}

theorem Table.Regular.linesExist {table : Table Routine} (regular : table.Regular) :
    table.LinesExist := by
  obtain ⟨bindings, lists, -, -, inRange⟩ := regular
  exact lists.linesExist inRange

theorem Run.bindVectored_mirrors (regular : system.vectored.Regular) {line : Nat}
    (small : line < lineCount) (routine : Routine) (priority : Byte) :
    ∃ place after, Run.bindVectored line routine priority system = .ok (.ok place) after ∧
      after.vectored.position line = some place ∧
      system.Mirrors after
        (system.vectored.insert (.binding line (priority &&& priorityMask) routine)).writes := by
  obtain ⟨place, answer, placed, -⟩ := regular.reported.insert
    (.binding line (priority &&& priorityMask) routine) line rfl small rfl
  have proper : (TableOp.insert (.binding line (priority &&& priorityMask) routine)).Proper :=
    ⟨⟨line, small, rfl⟩, rfl⟩
  obtain ⟨after, returns, mirrors⟩ :=
    Run.updateVectored_mirrors answer (regular.after proper).linesExist
  unfold Run.bindVectored
  rw [if_pos small, bind_get, bind_ok returns, bind_ok (Run.log_ok _ after)]
  exact ⟨place, _, rfl, (congrArg (Table.position · line) mirrors.vectored).trans placed,
    mirrors.logged _⟩

theorem Run.releaseVectored_mirrors (regular : system.vectored.Regular) (line : Nat) :
    ∃ after, Run.releaseVectored line system = .ok () after ∧
      system.Mirrors after (system.vectored.remove line).writes := by
  have proper : (TableOp.remove line : TableOp Routine).Proper := trivial
  have exist := (regular.after proper).linesExist
  have answers : ∃ position, (system.vectored.remove line).answer = .ok position := by
    cases found : system.vectored.position line with
    | none => exact ⟨none, by rw [regular.reported.absent line found]⟩
    | some place => exact ⟨some place, (regular.reported.remove line place found).1⟩
  obtain ⟨position, answer⟩ := answers
  obtain ⟨after, returns, mirrors⟩ := Run.updateVectored_mirrors answer exist
  unfold Run.releaseVectored
  rw [bind_get, bind_ok returns]
  cases position with
  | none => exact ⟨after, rfl, mirrors⟩
  | some place => exact ⟨_, Run.log_ok _ after, mirrors.logged _⟩

end Registry

/-- **The writes of a change.** Whatever lines that exist were bound, released and cleared before,
the writes of an insertion sweep from the former place of the line, or the first vacant one, to the
place it ends up at, those of a removal from the place of the line to the end, and those of clearing
over the whole table; there are none if the line to be removed is not bound. Each of them carries
what its place holds from then on. So binding or releasing a line writes both registers of exactly
the slots in between, which are enabled where a line is bound, and leaves the other slots as they
are. -/
theorem writes_reported :
    (∀ {α : Type} [Inhabited α] (ops : List (TableOp α)), (∀ op ∈ ops, op.Proper) →
      (ops.foldl Table.after (Table.vacant : Table α)).Reported) ∧
    ∀ {β γ : Type} [RegisterBank β] [SlotBank β] (ops : List (TableOp Routine))
        (system : System β γ),
      (∀ op ∈ ops, op.Proper) → system.vectored = ops.foldl Table.after Table.vacant →
      (∀ line routine priority, line < lineCount → ∃ place after,
        Run.bindVectored line routine priority system = .ok (.ok place) after ∧
          after.vectored.position line = some place ∧
          system.Mirrors after
            (system.vectored.insert (.binding line (priority &&& priorityMask) routine)).writes) ∧
      (∀ line routine priority, lineCount ≤ line → ∃ after,
        Run.bindVectored line routine priority system =
            .ok (.error .vectoredLineOutOfRange) after ∧
          system.Mirrors after []) ∧
      ∀ line, ∃ after, Run.releaseVectored line system = .ok () after ∧
        system.Mirrors after (system.vectored.remove line).writes := by
  refine ⟨fun ops proper => (Table.Regular.foldl_after proper).reported,
    fun ops system proper reached => ?_⟩
  have regular : system.vectored.Regular := reached ▸ Table.Regular.foldl_after proper
  refine ⟨fun line routine priority small =>
      Run.bindVectored_mirrors regular small routine priority,
    fun line routine priority large => ⟨_, Run.bindVectored_refused (Nat.not_lt.mpr large),
      (System.Mirrors.refl system).logged _⟩,
    fun line => Run.releaseVectored_mirrors regular line⟩

/-- Line 4 is bound in front of line 3, and bound once more behind it. -/
theorem writes_reported_rebinding :
    let ops : List (TableOp Routine) := [.insert (.binding 3 5 .dummy),
      .insert (.binding 4 9 .fallback), .remove 7]
    let system : System Simulated ControlField :=
      ⟨.atPowerUp .powerUp, .vacant, ops.foldl Table.after .vacant, .polled, 0⟩
    (∀ op ∈ ops, op.Proper) ∧ (ops.foldl Table.after .vacant).Reported ∧
      (∃ place after, Run.bindVectored 4 .dummy 2 system = .ok (.ok place) after ∧
        after.vectored.position 4 = some place ∧
        system.Mirrors after
          (system.vectored.insert (.binding 4 (2 &&& priorityMask) .dummy)).writes) ∧
      ∃ after, Run.releaseVectored 3 system = .ok () after ∧
        system.Mirrors after (system.vectored.remove 3).writes := by
  intro ops system
  have proper : ∀ op ∈ ops, op.Proper := by
    simp [ops, TableOp.Proper, Entry.binding, lineCount]
  have registry := writes_reported.2 ops system proper rfl
  exact ⟨proper, writes_reported.1 ops proper, registry.1 4 .dummy 2 (by decide), registry.2.2 3⟩

end VectoredInterrupts
