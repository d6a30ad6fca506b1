/-
**Steps that always return.**

A step is `Total` if it returns from every state. A bank is `Compliant` if its legal accesses are:
then so is whatever the firmware does to the machine alone, since it checks lines and slots before
it uses them. The simulated controller and the memory mapped block are compliant.

* `LineOp.perform_total`, `StatusOp.perform_total`, `RegisterOp.perform_total`;
* `Run.init_total`: setting up;
* `Operation.perform_total`: an operation that neither searches a table for a place nor runs
  handlers.
-/

import VectoredInterrupts.Proofs.Simulated.Cells

namespace VectoredInterrupts

section Total

variable {ε σ α ρ : Type}

/-- The step returns, whatever the state is. -/
def Total (step : EStateM ε σ α) : Prop := ∀ state, ∃ value after, step state = .ok value after

namespace Total

theorem pure (value : α) : Total (pure value : EStateM ε σ α) := fun state => ⟨value, state, rfl⟩

theorem get : Total (get : EStateM ε σ σ) := fun state => ⟨state, state, rfl⟩

theorem modify (change : σ → σ) : Total (modify change : EStateM ε σ PUnit) :=
  fun state => ⟨⟨⟩, change state, rfl⟩

theorem bind {first : EStateM ε σ α} {next : α → EStateM ε σ ρ} (head : Total first)
    (tail : ∀ value, Total (next value)) : Total (first >>= next) := by
  intro state
  obtain ⟨value, middle, returned⟩ := head state
  rw [bind_ok returned]
  exact tail value middle

theorem ite {condition : Prop} [Decidable condition] {first second : EStateM ε σ α}
    (yes : condition → Total first) (no : ¬ condition → Total second) :
    Total (if condition then first else second) := by
  by_cases decided : condition
  · rw [if_pos decided]
    exact yes decided
  · rw [if_neg decided]
    exact no decided

theorem forM {list : List ρ} {step : ρ → EStateM ε σ PUnit}
    (each : ∀ item ∈ list, Total (step item)) : Total (list.forM step) := by
  induction list with
  | nil => exact pure _
  | cons head rest ih =>
    exact (each head List.mem_cons_self).bind fun _ =>
      ih fun item member => each item (List.mem_cons_of_mem _ member)

theorem foldlM {list : List ρ} {step : α → ρ → EStateM ε σ α}
    (each : ∀ value, ∀ item ∈ list, Total (step value item)) (value : α) :
    Total (list.foldlM step value) := by
  induction list generalizing value with
  | nil => exact pure _
  | cons head rest ih =>
    exact (each value head List.mem_cons_self).bind
      (ih fun value item member => each value item (List.mem_cons_of_mem _ member))

theorem checked {result : Except Fault α} {value : α} (found : result = .ok value) :
    Total (checked result : EStateM Fault σ α) := by
  rw [found]
  exact pure value

end Total

end Total

/-! ### Compliant banks -/

/-- The bank completes every legal access, whatever state it is in. -/
structure Compliant (β : Type) [RegisterBank β] : Prop where
  read : ∀ offset, (Access.read offset).Legal → Total (RegisterBank.read offset : EStateM _ β _)
  write : ∀ offset value, (Access.write offset).Legal →
    Total (RegisterBank.write offset value : EStateM _ β _)

theorem Simulated.compliant : Compliant Simulated where
  read _ legal controller := controller.read_returns
    (Offset.readable_iff.mpr ((Option.any_eq_true _ _).mp legal.register))
  write _ value legal controller := by
    obtain ⟨after, returns⟩ := controller.write_returns
      (Offset.writable_iff.mpr ((Option.any_eq_true _ _).mp legal.register)) value
    exact ⟨(), after, returns⟩

theorem MemoryBlock.compliant : Compliant MemoryBlock where
  read _ legal _ := ⟨_, _, dif_pos legal.inside⟩
  write _ _ legal _ := ⟨_, _, dif_pos legal.inside⟩

/-- A compliant bank does not fault when a slot is written. -/
theorem Compliant.not_slotFault {β : Type} [RegisterBank β] (compliant : Compliant β)
    (fault : Fault) : ¬ SlotFault β fault := by
  have legal : ∀ slot : Fin 16, (Access.write (Offset.slotControl slot)).Legal ∧
      (Access.write (Offset.slotAddress slot)).Legal :=
    fun slot => ⟨(Offset.slotRegister_slotControl slot.isLt).legal.2,
      (Offset.slotRegister_slotAddress slot.isLt).legal.2⟩
  rintro ⟨slot, value, bank, after, raised | raised⟩
  · obtain ⟨_, _, returned⟩ := compliant.write _ value (legal slot).1 bank
    cases returned.symm.trans raised
  · obtain ⟨_, _, returned⟩ := compliant.write _ value (legal slot).2 bank
    cases returned.symm.trans raised

/-! ### Steps of the machine -/

section Machine

variable {β γ α : Type}

namespace Bus

theorem record_total (event : Event) : Total (record event : Bus β γ Unit) := .modify _

theorem whenLogged_total (level : Level) {step : Bus β γ Unit} (total : Total step) :
    Total (whenLogged level step) :=
  .bind .get fun _ => .ite (fun _ => total) fun _ => .pure _

theorem log_total (notice : Notice) : Total (log notice : Bus β γ Unit) :=
  whenLogged_total _ (record_total _)

theorem refuse_total (reason : Refusal) :
    Total (refuse reason : Bus β γ (Except Refusal α)) :=
  (log_total _).bind fun _ => .pure _

variable [RegisterBank β] (compliant : Compliant β)

include compliant

theorem read_total {offset : Nat} (legal : (Access.read offset).Legal) :
    Total (read offset : Bus β γ Word) := by
  intro machine
  obtain ⟨value, bank, returned⟩ := compliant.read offset legal machine.bank
  exact ⟨_, _, read_ok returned⟩

theorem write_total {offset : Nat} (value : Word) (legal : (Access.write offset).Legal) :
    Total (write offset value : Bus β γ Unit) := by
  intro machine
  obtain ⟨_, bank, returned⟩ := compliant.write offset value legal machine.bank
  exact ⟨_, _, write_ok returned⟩

theorem readLines_total {offset : Nat} (legal : (Access.read offset).Legal) :
    Total (do return (← read offset).lines : Bus β γ LineSet) :=
  (read_total compliant legal).bind fun _ => .pure _

/-- The identification is four reads. -/
theorem announce_total : Total (announce : Bus β γ Unit) := by
  refine whenLogged_total _ (.bind (.foldlM (fun _ place member => ?_) _) fun _ => record_total _)
  have legal : (Access.read (Offset.peripheralId + place * 4)).Legal :=
    Operation.legal_of_reads (show Operation.init.Reads _ from ⟨place, member, rfl⟩)
  exact (read_total compliant legal).bind fun _ => .pure _

theorem loadSlot_total (index : Nat) (entry : Entry Routine) :
    Total (loadSlot index entry : Bus β γ Unit) := by
  by_cases inside : index < slotCount
  · rw [loadSlot_eq inside]
    exact (write_total compliant _ (Offset.slotRegister_slotControl inside).legal.2).bind fun _ =>
      write_total compliant _ (Offset.slotRegister_slotAddress inside).legal.2
  · rw [loadSlot_outside inside]
    exact .pure _

theorem modifyControl_total {slot : Nat} (inside : slot < slotCount) (change : Word → Word) :
    Total (do setSlotControl slot (change (← slotControl slot)) : Bus β γ Unit) := by
  have legal := (Offset.slotRegister_slotControl inside).legal
  rw [slotControl_eq inside]
  simp only [setSlotControl_eq inside]
  exact (read_total compliant legal.1).bind fun _ => write_total compliant _ legal.2

end Bus

theorem StatusOp.perform_total [StatusRegister γ] (op : StatusOp) :
    Total (op.perform : Bus β γ Reply) := by
  cases op <;> exact fun _ => ⟨_, _, rfl⟩

variable [RegisterBank β] (compliant : Compliant β)

include compliant

/-- **An operation on one line** looks at its line before it uses it. -/
theorem LineOp.perform_total (op : LineOp) : Total (op.perform : Bus β γ Reply) := by
  have bit : ∀ {line}, line < lineCount → Total (checked (lineBit line) : Bus β γ Word) :=
    fun small => .checked (lineBit_ok (Nat.lt_trans small (by decide)))
  have test : ∀ {line}, line < lineCount → ∀ lines : LineSet,
      Total (checked (lines.test line) : Bus β γ Bool) :=
    fun small _ => .checked (LineSet.test_ok small)
  have reads : ∀ offset ∈ op.reads, (Access.read offset).Legal := fun _ => legal_of_reads
  have writes : ∀ offset ∈ op.written?, (Access.write offset).Legal := fun _ => legal_of_written
  have refused : ∀ {α : Type} (condition : Prop) reason, ¬ condition →
      Total (Bus.refuse reason : Bus β γ (Except Refusal α)) :=
    fun _ reason _ => Bus.refuse_total reason
  cases op with
  | enable line | disable line | raise line =>
    refine Total.bind (.ite (fun small => ?_) (refused _ _)) fun _ => .pure _
    exact (bit small).bind fun mask =>
      (Bus.write_total compliant mask (writes _ rfl)).bind fun _ => .pure _
  | isEnabled line =>
    refine Total.bind (.ite (fun small => ?_) fun _ => .pure _) fun _ => .pure _
    exact (Bus.readLines_total compliant (reads _ List.mem_cons_self)).bind (test small)
  | route line =>
    refine Total.bind (.ite (fun small => ?_) fun _ => .pure _) fun _ => .pure _
    exact (Bus.read_total compliant (reads _ List.mem_cons_self)).bind fun _ =>
      (bit small).bind fun _ => .ite (fun _ => .pure _) fun _ => .pure _
  | setRoute line target =>
    refine Total.bind (.ite (fun small => ?_) (refused _ _)) fun _ => .pure _
    refine (Bus.read_total compliant (reads _ List.mem_cons_self)).bind fun mask =>
      (bit small).bind fun place => ?_
    cases target with
    | irq | fiq => exact (Bus.write_total compliant _ (writes _ rfl)).bind fun _ => .pure _
  | clear line =>
    refine Total.bind (.ite (fun small => ?_) (refused _ _)) fun _ => .pure _
    refine (Bus.readLines_total compliant (reads _ List.mem_cons_self)).bind fun lines =>
      (test small lines).bind fun _ => .ite (fun _ => ?_) (refused _ _)
    exact (bit small).bind fun mask =>
      (Bus.write_total compliant mask (writes _ rfl)).bind fun _ => .pure _

/-- An access that the controller's firmware offers. -/
theorem RegisterOp.perform_total {op : RegisterOp} (offered : op.OfController) :
    Total (op.perform : Bus β γ Reply) := by
  rcases offered with ⟨mask, rfl⟩ | ⟨routine, rfl⟩
  · exact (Bus.write_total compliant mask (by decide)).bind fun _ => .pure _
  · exact (Bus.write_total compliant routine.address (by decide)).bind fun _ => .pure _

end Machine

/-! ### Steps of the firmware -/

section Firmware

variable {β γ α : Type}

theorem Run.onMachine_total {step : Bus β γ α} (total : Total step) :
    Total (onMachine step) := by
  intro system
  obtain ⟨value, machine, returned⟩ := total system.machine
  exact ⟨_, _, onMachine_ok returned⟩

variable [RegisterBank β] (compliant : Compliant β)

include compliant

namespace Run

/-- An update of the vectored table returns if it has an answer. -/
theorem updateVectored_total {update : Update Routine α} {answer : α}
    (answered : update.answer = .ok answer) : Total (updateVectored update : Run β γ α) := by
  refine Total.bind (.forM fun write _ => ?_) fun _ => .checked answered
  exact Total.bind (.modify _) fun _ => onMachine_total (Bus.loadSlot_total compliant _ _)

theorem clearVectored_total : Total (clearVectored : Run β γ Unit) :=
  updateVectored_total compliant rfl

/-- **Setting up.** -/
theorem init_total : Total (init : Run β γ Unit) := by
  have writes : ∀ offset ∈ [Offset.select, Offset.enableClear, Offset.softClear,
      Offset.defaultVector], ∀ value, Total (onMachine (Bus.write offset value) : Run β γ Unit) :=
    fun offset member value => onMachine_total (Bus.write_total compliant value
      (Operation.legal_of_writes (show Operation.init.Writes offset from .inl member)))
  refine (writes _ (by simp) _).bind fun _ => (writes _ (by simp) _).bind fun _ =>
    (writes _ (by simp) _).bind fun _ => (writes _ (by simp) _).bind fun _ => ?_
  exact (clearVectored_total compliant).bind fun _ => Total.bind (.modify _) fun _ =>
    Total.bind (.modify _) fun _ => onMachine_total (Bus.announce_total compliant)

/-- Changing the control words of slots that exist. -/
theorem modifyControls_total {slots : List Nat} (inside : ∀ slot ∈ slots, slot < slotCount)
    (change : Word → Word) : Total (slots.forM fun slot =>
      (onMachine (do Bus.setSlotControl slot (change (← Bus.slotControl slot))) :
        Run β γ Unit)) :=
  .forM fun slot member =>
    onMachine_total (Bus.modifyControl_total compliant (inside slot member) change)

end Run

/-- **An operation** that neither looks for the place of a line nor runs handlers. -/
theorem Operation.perform_total {op : Operation} (call : Nat → Handler → Run β γ Unit)
    (quiet : op.serves = false) (other : op ≠ .handleIrq)
    (plain : op.polledChange?.isSome ∨ op.vectoredChange?.isSome → op = .init) :
    Total (op.perform call) := by
  cases op with
  | init => exact (Run.init_total compliant).bind fun _ => .pure _
  | setMode => exact Total.bind (.modify _) fun _ => .pure _
  | polledPosition | vectoredPosition => exact .bind .get fun _ => .pure _
  | enableSlot line =>
    refine Total.bind (.bind .get fun system => ?_) fun _ => .pure _
    refine Total.bind (Run.modifyControls_total compliant (slotsOf_lt _ _) (· ||| controlEnable))
      fun _ => ?_
    split
    · exact .pure _
    · exact Run.onMachine_total (Bus.refuse_total _)
  | disableSlot line =>
    exact Total.bind (.bind .get fun _ =>
      Run.modifyControls_total compliant (slotsOf_lt _ _) (· &&& ~~~controlEnable)) fun _ => .pure _
  | disableAllSlots =>
    exact Total.bind (Run.modifyControls_total compliant (fun slot member =>
      List.mem_range.mp member) (· &&& ~~~controlEnable)) fun _ => .pure _
  | handleIrq => exact absurd rfl other
  | servicePolled | serviceUnslotted => cases quiet
  | bindPolled | releasePolled | clearPolled | bindVectored | releaseVectored | releaseAllVectored
  | clearVectored => exact absurd (plain (by simp [polledChange?, vectoredChange?])) nofun

end Firmware

end VectoredInterrupts
