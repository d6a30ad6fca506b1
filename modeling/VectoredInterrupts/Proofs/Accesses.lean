/-
**What an operation touches.**

An operation reads and writes certain registers (`Operation.Reads`, `Operation.Writes`), and asks
for certain changes of the firmware state. Whatever is closed under these accesses and these changes
is maintained by the operation, however far it gets before it faults.

* `Run.updateVectored_maintains`: an update of the vectored table writes slot registers;
* `Operation.perform_maintains_of_closed`: every operation, given what a dispatch maintains;
* `Handlers.perform_maintains_of_closed`: every request, over a property of the machine.
-/

import VectoredInterrupts.Proofs.Registries

namespace VectoredInterrupts

/-- The offset is that of a slot register. -/
def Offset.SlotRegister (offset : Nat) : Prop :=
  ∃ slot : Fin 16, offset = Offset.slotControl slot ∨ offset = Offset.slotAddress slot

/-- The offsets that an operation reads, if it is not a dispatch. -/
def Operation.Reads : Operation → Nat → Prop
  | .init => fun offset => ∃ place ∈ [0, 1, 2, 3], offset = Offset.peripheralId + place * 4
  | .serviceUnslotted => fun offset => offset = Offset.enable
  | .enableSlot _ | .disableSlot _ | .disableAllSlots => Offset.SlotRegister
  | _ => fun _ => False

/-- The offsets that an operation writes, if it is not a dispatch. -/
def Operation.Writes : Operation → Nat → Prop
  | .init => fun offset => offset ∈ [Offset.select, Offset.enableClear, Offset.softClear,
      Offset.defaultVector] ∨ Offset.SlotRegister offset
  | .bindVectored .. | .releaseVectored _ | .releaseAllVectored | .clearVectored | .enableSlot _
  | .disableSlot _ | .disableAllSlots => Offset.SlotRegister
  | _ => fun _ => False

/-- Whether an operation runs handlers outside of any dispatch. -/
def Operation.serves : Operation → Bool
  | .servicePolled _ | .serviceUnslotted => true
  | _ => false

/-- A slot register lies in one of the two banks. -/
theorem Offset.SlotRegister.ofSlot {offset : Nat} (register : Offset.SlotRegister offset) :
    Offset.OfSlot offset := by
  obtain ⟨slot, rfl | rfl⟩ := register
  all_goals
    simp only [Offset.OfSlot, Offset.slotControl, Offset.slotAddress, Offset.slotAddressBase,
      Offset.slotControlBase, slotCount]
    omega

theorem Offset.slotRegister_slotControl {slot : Nat} (inside : slot < slotCount) :
    Offset.SlotRegister (Offset.slotControl slot) :=
  ⟨⟨slot, inside⟩, .inl rfl⟩

theorem Offset.slotRegister_slotAddress {slot : Nat} (inside : slot < slotCount) :
    Offset.SlotRegister (Offset.slotAddress slot) :=
  ⟨⟨slot, inside⟩, .inr rfl⟩

theorem mem_slotsOf {table : Table Routine} {line slot : Nat} :
    slot ∈ Run.slotsOf table line ↔ slot < slotCount ∧ (table.get slot).line = some line := by
  unfold Run.slotsOf
  rw [List.mem_filter, List.mem_range, beq_iff_eq]

/-- The slots of a line exist. -/
theorem slotsOf_lt (table : Table Routine) (line : Nat) :
    ∀ slot ∈ Run.slotsOf table line, slot < slotCount :=
  fun _ member => (mem_slotsOf.mp member).1

section Slots

variable {β γ : Type} [RegisterBank β] {kept : (α : Type) → Bus β γ α → Prop}
  (sequential : Sequential kept)
  (writes : ∀ offset, Offset.SlotRegister offset → ∀ value, kept _ (Bus.write offset value))

include sequential writes

/-- Loading a slot writes to slot registers. -/
theorem Bus.loadSlot_sequential (index : Nat) (entry : Entry Routine) :
    kept _ (Bus.loadSlot index entry) := by
  by_cases inside : index < slotCount
  · rw [Bus.loadSlot_eq inside]
    refine sequential.bind (writes _ (Offset.slotRegister_slotControl inside) _) fun _ => ?_
    exact writes _ (Offset.slotRegister_slotAddress inside) _
  · rw [Bus.loadSlot_outside inside]
    exact sequential.pure _

/-- Changing the control word of a slot is a read and a write there. -/
theorem Bus.modifyControl_sequential
    (reads : ∀ offset, Offset.SlotRegister offset → kept _ (Bus.read offset)) {slot : Nat}
    (inside : slot < slotCount) (change : Word → Word) :
    kept _ (do Bus.setSlotControl slot (change (← Bus.slotControl slot))) := by
  have register := Offset.slotRegister_slotControl inside
  rw [Bus.slotControl_eq inside]
  simp only [Bus.setSlotControl_eq inside]
  exact sequential.bind (reads _ register) fun _ => writes _ register _

end Slots

section Operations

variable {β γ α : Type} [RegisterBank β] {readable writable : Nat → Prop}
  {holds : System β γ → Prop} (closed : Closed (System.Step readable writable) holds)

include closed

theorem Run.loadSlot_maintains (slots : ∀ offset, Offset.SlotRegister offset → writable offset)
    (index : Nat) (entry : Entry Routine) :
    Maintains holds (Run.onMachine (Bus.loadSlot index entry) : Run β γ Unit) := by
  refine onMachine_maintains fun system => ?_
  refine Bus.loadSlot_sequential (Maintains.sequential _) (fun offset register value => ?_) _ _
  exact Bus.write_maintains (closed.machine system) value (slots offset register)

theorem Run.updateVectored_maintains
    (slots : ∀ offset, Offset.SlotRegister offset → writable offset)
    (vectored : ∀ (system : System β γ) table, holds system →
      holds { system with vectored := table })
    (update : Update Routine α) : Maintains holds (Run.updateVectored update : Run β γ α) := by
  refine Maintains.bind (.forM fun write _ => ?_) fun _ => .checked _
  exact Maintains.bind (.modify fun system before => vectored system _ before) fun _ =>
    loadSlot_maintains closed slots _ _

theorem Run.modifyControl_maintains (reads : ∀ offset, Offset.SlotRegister offset → readable offset)
    (writes : ∀ offset, Offset.SlotRegister offset → writable offset) {slot : Nat}
    (inside : slot < slotCount) (change : Word → Word) :
    Maintains holds
      (Run.onMachine (do Bus.setSlotControl slot (change (← Bus.slotControl slot))) :
        Run β γ Unit) := by
  refine onMachine_maintains fun system => ?_
  refine Bus.modifyControl_sequential (Maintains.sequential _) (fun offset register value => ?_)
    (fun offset register => ?_) inside change
  · exact Bus.write_maintains (closed.machine system) value (writes offset register)
  · exact Bus.read_maintains (closed.machine system) (reads offset register)

/-- **An operation.** -/
theorem Operation.perform_maintains_of_closed {call : Nat → Handler → Run β γ Unit} (op : Operation)
    (reads : ∀ offset, op.Reads offset → readable offset)
    (writes : ∀ offset, op.Writes offset → writable offset)
    (calls : op.serves = true → ∀ handler, Maintains holds (call 0 handler))
    (interrupts : op = .handleIrq → Maintains holds (Run.handleIrq call 1))
    (mode : ∀ (system : System β γ) mode, holds system → holds { system with mode })
    (polled : ∀ change, op.polledChange? = some change → ∀ system : System β γ, holds system →
      holds { system with polled := system.polled.change change })
    (vectored : op.vectoredChange?.isSome → ∀ (system : System β γ) table, holds system →
      holds { system with vectored := table })
    (spurious : op = .init → ∀ (system : System β γ) spurious, holds system →
      holds { system with spurious }) :
    Maintains holds (op.perform call) := by
  have switches : ∀ (slots : List Nat) (change : Word → Word), (∀ slot ∈ slots, slot < slotCount) →
      (∀ offset, Offset.SlotRegister offset → readable offset) →
      (∀ offset, Offset.SlotRegister offset → writable offset) →
      Maintains holds (slots.forM fun slot =>
        (Run.onMachine (do Bus.setSlotControl slot (change (← Bus.slotControl slot))) :
          Run β γ Unit)) :=
    fun slots change inside reads writes => .forM fun slot member =>
      Run.modifyControl_maintains closed reads writes (inside slot member) change
  cases op with
  | init =>
    have write : ∀ offset ∈ [Offset.select, Offset.enableClear, Offset.softClear,
        Offset.defaultVector], ∀ value, Maintains holds
          (Run.onMachine (Bus.write offset value) : Run β γ Unit) :=
      fun offset member value => Run.write_maintains closed value (writes _ (.inl member))
    refine Maintains.bind ?_ fun _ => .pure _
    refine (write _ (by simp) _).bind fun _ => (write _ (by simp) _).bind fun _ =>
      (write _ (by simp) _).bind fun _ => (write _ (by simp) _).bind fun _ =>
      (Run.updateVectored_maintains closed (fun _ register => writes _ (.inr register))
        (vectored rfl) _).bind fun _ => ?_
    refine Maintains.bind (.modify fun system before => polled .clear rfl system before) fun _ =>
      .bind (.modify fun system before => ?_) fun _ => ?_
    · exact spurious rfl { system with mode := .polled } 0 (mode system .polled before)
    · exact Run.onMachine_maintains fun system =>
        Bus.announce_maintains (closed.machine system) fun place member =>
          reads _ ⟨place, member, rfl⟩
  | setMode target =>
    exact Maintains.bind (.modify fun system before => mode system target before) fun _ => .pure _
  | handleIrq => exact (interrupts rfl).bind fun _ => .pure _
  | bindPolled line handler priority =>
    refine Maintains.bind ?_ fun _ => .pure _
    unfold Run.bindPolled
    by_cases small : line < lineCount
    · rw [if_pos small]
      intro system before
      have bound := polled (.bind line handler priority) rfl system before
      rw [Table.change, if_pos small] at bound
      rw [stateAfter_get, stateAfter_modify]
      refine Maintains.bind (.checked _) (fun _ => ?_) _ bound
      exact (Run.log_maintains closed _).bind fun _ => .pure _
    · rw [if_neg small]
      exact Run.refuse_maintains closed _
  | releasePolled line =>
    refine Maintains.bind (fun system before => ?_) fun _ => .pure _
    rw [Run.releasePolled, stateAfter_get, stateAfter_modify]
    refine Maintains.bind (.checked _) (fun position => ?_) _
      (polled (.release line) rfl system before)
    cases position with
    | none => exact .pure _
    | some position => exact Run.log_maintains closed _
  | clearPolled =>
    exact Maintains.bind (.modify fun system before => polled .clear rfl system before) fun _ =>
      .pure _
  | servicePolled status =>
    exact (Run.servicePolled_maintains (fun _ _ handler _ => calls rfl handler) status).bind
      fun _ => .pure _
  | polledPosition line | vectoredPosition line => exact .bind .get fun _ => .pure _
  | bindVectored line routine priority =>
    refine Maintains.bind (.ite ?_ (Run.refuse_maintains closed _)) fun _ => .pure _
    exact .bind .get fun _ => (Run.updateVectored_maintains closed writes (vectored rfl) _).bind
      fun _ => (Run.log_maintains closed _).bind fun _ => .pure _
  | releaseVectored line =>
    refine Maintains.bind (.bind .get fun _ =>
      (Run.updateVectored_maintains closed writes (vectored rfl) _).bind fun position => ?_)
      fun _ => .pure _
    cases position with
    | none => exact .pure _
    | some position => exact Run.log_maintains closed _
  | releaseAllVectored =>
    exact Maintains.bind ((Run.updateVectored_maintains closed writes (vectored rfl) _).bind
      fun _ => Run.log_maintains closed _) fun _ => .pure _
  | clearVectored =>
    exact (Run.updateVectored_maintains closed writes (vectored rfl) _).bind fun _ => .pure _
  | serviceUnslotted =>
    exact (Run.serviceUnslotted_maintains closed (reads _ rfl) fun _ _ _ _ => calls rfl _).bind
      fun _ => .pure _
  | enableSlot line =>
    refine Maintains.bind (.bind .get fun system =>
      (switches _ (· ||| controlEnable) (slotsOf_lt _ _) reads writes).bind fun _ => ?_)
      fun _ => .pure _
    split
    · exact .pure _
    · exact Run.refuse_maintains closed _
  | disableSlot line =>
    exact Maintains.bind (.bind .get fun _ =>
      switches _ (· &&& ~~~controlEnable) (slotsOf_lt _ _) reads writes) fun _ => .pure _
  | disableAllSlots =>
    exact Maintains.bind (switches _ (· &&& ~~~controlEnable) (fun slot member =>
      List.mem_range.mp member) reads writes) fun _ => .pure _

end Operations

/-! ### Requests -/

/-- The offsets that a request reads, if it is not a dispatch. -/
def Request.Reads {ι : Type} : Request ι → Nat → Prop
  | .action request => (· ∈ request.reads)
  | .operation op => op.Reads

/-- The offsets that a request writes, if it is not a dispatch. -/
def Request.Writes {ι : Type} : Request ι → Nat → Prop
  | .action request => (· ∈ request.written?)
  | .operation op => op.Writes

section Requests

variable {ι β γ : Type} [RegisterBank β] {readable writable : Nat → Prop}

/-- A property of the bank alone. -/
theorem System.closed_of_bank {holds : β → Prop}
    (reads : ∀ offset, readable offset → Maintains holds (RegisterBank.read offset))
    (writes : ∀ offset value, writable offset → Maintains holds (RegisterBank.write offset value)) :
    Closed (System.Move readable writable)
      fun system : System β γ => holds system.machine.bank := by
  intro before after move held
  cases move with
  | step step =>
    cases step with
    | machine step => exact Machine.closed_of_bank reads writes step held
  | counted => exact held
  | marked => exact held

/-- **A request**, over a property of the machine. -/
theorem Handlers.perform_maintains_of_closed [StatusRegister γ] [Benched ι β]
    {handlers : Handlers β γ} (holds : Machine β γ → Prop)
    (closed : Closed (System.Move readable writable) fun system => holds system.machine)
    (dispatch : ∀ offset ∈ [Offset.irqStatus, Offset.enable, Offset.vector], readable offset)
    (vector : writable Offset.vector)
    (benched : ∀ action : ι, Maintains holds (Bus.onBank (Benched.act action)))
    (calls : ∀ active handler,
      Maintains (fun system => holds system.machine) (handlers.call active handler))
    (request : Request ι) (reads : ∀ offset, request.Reads offset → readable offset)
    (writes : ∀ offset, request.Writes offset → writable offset) :
    Maintains (fun system => holds system.machine) (handlers.perform request) := by
  have interrupts : Maintains (fun system => holds system.machine)
      (Run.handleIrq handlers.call 1) :=
    Run.handleIrq_maintains_of_closed closed dispatch vector (calls 1)
  cases request with
  | action action =>
    exact Run.perform_maintains_of_closed closed.of_move
      (fun action => Run.onMachine_maintains fun _ => benched action) (calls 0) (fun _ => interrupts)
      action reads writes
  | operation op =>
    exact op.perform_maintains_of_closed closed.of_move reads writes (fun _ => calls 0)
      (fun _ => interrupts) (fun _ _ before => before) (fun _ _ _ before => before)
      (fun _ _ _ before => before) fun _ _ _ before => before

end Requests

end VectoredInterrupts
