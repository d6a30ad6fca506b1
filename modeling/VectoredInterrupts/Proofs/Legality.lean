/-
**Legal accesses.**

The register map allows an access where a register starts, and some registers in one direction only.
A `Recorded` bank writes down what is asked of it, whether it completes the access or faults.

The accesses of the controller's firmware are legal, in whatever state it is and whatever the bank
answers; a handler's are if it keeps to operations on single lines (`Firmware.PerLine`).

* `Operation.legal_of_reads`, `Operation.legal_of_writes`: one operation;
* `DirectOp.ofController`: the operations without state are among those of the firmware;
* `Handlers.perform_keepsToMap`: a request, with handlers that keep to the map;
* `Command.session_keepsToMap`: a session.
-/

import VectoredInterrupts.Proofs.Accesses

namespace VectoredInterrupts

/-! ### The register map -/

/-- One access to a register block. -/
inductive Access where
  | read (offset : Nat)
  | write (offset : Nat)
deriving DecidableEq

namespace Access

/-- Where the access is made. -/
def offset : Access → Nat
  | .read offset | .write offset => offset

/-- The register can be accessed in this direction. -/
def suits : Access → Register → Bool
  | .read _, .enableClear | .read _, .softClear => false
  | .write _, .irqStatus | .write _, .fiqStatus | .write _, .rawStatus
  | .write _, .identification _ => false
  | _, _ => true

end Access

instance (offset : Nat) : Decidable (Offset.SlotRegister offset) :=
  inferInstanceAs (Decidable (∃ slot : Fin 16,
    offset = Offset.slotControl slot ∨ offset = Offset.slotAddress slot))

/-- The register map allows the access. -/
structure Access.Legal (access : Access) : Prop where
  aligned : access.offset % 4 = 0
  inside : access.offset < Offset.blockSize
  register : (Register.ofOffset? access.offset).any access.suits = true
  /-- Between the two banks of slot registers, and past them, there is nothing. -/
  slots : Offset.slotAddressBase ≤ access.offset → access.offset < Offset.peripheralId →
    Offset.SlotRegister access.offset

instance (access : Access) : Decidable access.Legal :=
  decidable_of_iff
    (access.offset % 4 = 0 ∧ access.offset < Offset.blockSize ∧
      (Register.ofOffset? access.offset).any access.suits = true ∧
      (Offset.slotAddressBase ≤ access.offset → access.offset < Offset.peripheralId →
        Offset.SlotRegister access.offset))
    ⟨fun ⟨aligned, inside, register, slots⟩ => ⟨aligned, inside, register, slots⟩,
      fun ⟨aligned, inside, register, slots⟩ => ⟨aligned, inside, register, slots⟩⟩

/-- Slot registers can be read and written. -/
theorem Offset.SlotRegister.legal {offset : Nat} (register : Offset.SlotRegister offset) :
    (Access.read offset).Legal ∧ (Access.write offset).Legal := by
  have each : ∀ slot : Fin 16,
      ((Access.read (Offset.slotControl slot)).Legal ∧
        (Access.write (Offset.slotControl slot)).Legal) ∧
      (Access.read (Offset.slotAddress slot)).Legal ∧
        (Access.write (Offset.slotAddress slot)).Legal := by
    decide
  obtain ⟨slot, rfl | rfl⟩ := register
  · exact (each slot).1
  · exact (each slot).2

theorem LineOp.legal_of_reads {op : LineOp} {offset : Nat} (reads : offset ∈ op.reads) :
    (Access.read offset).Legal := by
  cases op with
  | enable | disable | raise => cases reads
  | isEnabled | route | setRoute | clear =>
    obtain rfl := List.mem_singleton.mp reads
    decide

theorem LineOp.legal_of_written {op : LineOp} {offset : Nat} (written : offset ∈ op.written?) :
    (Access.write offset).Legal := by
  cases op with
  | isEnabled | route => cases written
  | enable | disable | setRoute | raise | clear =>
    obtain rfl := Option.some.inj written
    decide

/-- **An operation** reads legally. -/
theorem Operation.legal_of_reads {op : Operation} {offset : Nat} (reads : op.Reads offset) :
    (Access.read offset).Legal := by
  cases op with
  | init =>
    have each : ∀ place ∈ [0, 1, 2, 3],
        (Access.read (Offset.peripheralId + place * 4)).Legal := by
      decide
    obtain ⟨place, member, rfl⟩ := reads
    exact each place member
  | serviceUnslotted =>
    obtain rfl := reads
    decide
  | enableSlot | disableSlot | disableAllSlots => exact (Offset.SlotRegister.legal reads).1
  | _ => exact reads.elim

/-- It writes legally, too. -/
theorem Operation.legal_of_writes {op : Operation} {offset : Nat} (writes : op.Writes offset) :
    (Access.write offset).Legal := by
  cases op with
  | init =>
    have each : ∀ offset ∈ [Offset.select, Offset.enableClear, Offset.softClear,
        Offset.defaultVector], (Access.write offset).Legal := by
      decide
    exact writes.elim (each offset) fun register => register.legal.2
  | bindVectored | releaseVectored | releaseAllVectored | clearVectored | enableSlot | disableSlot
  | disableAllSlots => exact (Offset.SlotRegister.legal writes).2
  | _ => exact writes.elim

/-! ### Requests and handlers of the firmware -/

/-- The firmware of the controller offers the access. -/
def RegisterOp.OfController (op : RegisterOp) : Prop :=
  (∃ mask, op = .disableLines mask) ∨ ∃ routine : Routine, op = .setDefaultVector routine.address

/-- The request is an operation of the controller's firmware, or one on a line or on the status
word. -/
def Request.OfController {ι : Type} : Request ι → Prop
  | .operation _ | .action (.line _) | .action (.status _) => True
  | .action (.register op) => op.OfController
  | .action (.bench _) | .action (.call _) | .action .interrupt | .action .fail => False

/-- What an operation without state is short for is offered by the controller's firmware. -/
theorem DirectOp.ofController {ι : Type} (op : DirectOp) :
    (Request.action op.action : Request ι).OfController := by
  cases op with
  | disableAllLines => exact .inl ⟨allLines, rfl⟩
  | setDefaultRoutine routine => exact .inr ⟨routine, rfl⟩
  | raiseSoftware | clearSoftware | enableIrq | disableIrq => trivial

/-- The action is an operation on a line or on the status word, or takes an interrupt. -/
def Action.PerLine {ι : Type} : Action ι → Prop
  | .line _ | .status _ | .interrupt => True
  | .register _ | .bench _ | .call _ | .fail => False

/-- The handlers of the firmware carry out such actions only. -/
def Firmware.PerLine {ι : Type} (firmware : Firmware ι) : Prop :=
  ∀ handler, (firmware.program handler).Uses Action.PerLine

theorem Action.PerLine.legal {ι : Type} {action : Action ι} (perLine : action.PerLine) :
    (∀ offset ∈ action.reads, (Access.read offset).Legal) ∧
      ∀ offset ∈ action.written?, (Access.write offset).Legal := by
  cases action with
  | line op => exact ⟨fun _ => LineOp.legal_of_reads, fun _ => LineOp.legal_of_written⟩
  | status | interrupt => exact ⟨nofun, nofun⟩
  | register | bench | call | fail => exact perLine.elim

theorem Request.OfController.legal {ι : Type} {request : Request ι}
    (offered : request.OfController) :
    (∀ offset, request.Reads offset → (Access.read offset).Legal) ∧
      ∀ offset, request.Writes offset → (Access.write offset).Legal := by
  cases request with
  | operation op => exact ⟨fun _ => Operation.legal_of_reads, fun _ => Operation.legal_of_writes⟩
  | action action =>
    cases action with
    | register op =>
      rcases offered with ⟨mask, rfl⟩ | ⟨routine, rfl⟩
      all_goals
        refine ⟨nofun, fun offset written => ?_⟩
        obtain rfl := Option.some.inj written
        decide
    | line op => exact (show (Action.line op : Action ι).PerLine from trivial).legal
    | status op => exact (show (Action.status op : Action ι).PerLine from trivial).legal
    | bench | call | interrupt | fail => exact offered.elim

/-! ### Recorded accesses -/

/-- A register block whose accesses are written down. -/
structure Recorded (β : Type) where
  /-- The block itself. -/
  bank : β
  /-- The accesses asked of it, the latest one first. -/
  accesses : List Access

namespace Recorded

variable {β : Type} [RegisterBank β]

/-- A read access. It is written down, whether the block completes it or not. -/
def read (offset : Nat) : EStateM Fault (Recorded β) Word := fun recorded =>
  match RegisterBank.read offset recorded.bank with
  | .ok value bank => .ok value ⟨bank, .read offset :: recorded.accesses⟩
  | .error fault bank => .error fault ⟨bank, .read offset :: recorded.accesses⟩

/-- A write access. It is written down, whether the block completes it or not. -/
def write (offset : Nat) (value : Word) : EStateM Fault (Recorded β) Unit := fun recorded =>
  match RegisterBank.write offset value recorded.bank with
  | .ok () bank => .ok () ⟨bank, .write offset :: recorded.accesses⟩
  | .error fault bank => .error fault ⟨bank, .write offset :: recorded.accesses⟩

instance : RegisterBank (Recorded β) := ⟨read, write⟩

end Recorded

/-- A block of which nothing has been asked yet. -/
def Recorded.untouched {β : Type} (bank : β) : Recorded β := ⟨bank, []⟩

/-- Only legal accesses have been asked of the block. -/
def Recorded.KeepsToMap {β : Type} (recorded : Recorded β) : Prop :=
  ∀ access ∈ recorded.accesses, access.Legal

section Recorded

variable {ι β γ : Type} [RegisterBank β]

namespace Recorded

theorem accesses_read (offset : Nat) (recorded : Recorded β) :
    (stateAfter (RegisterBank.read offset) recorded).accesses =
      .read offset :: recorded.accesses := by
  show (stateAfter (read offset) recorded).accesses = _
  unfold stateAfter read
  cases RegisterBank.read offset recorded.bank <;> rfl

theorem accesses_write (offset : Nat) (value : Word) (recorded : Recorded β) :
    (stateAfter (RegisterBank.write offset value) recorded).accesses =
      .write offset :: recorded.accesses := by
  show (stateAfter (write offset value) recorded).accesses = _
  unfold stateAfter write
  cases RegisterBank.write offset value recorded.bank <;> rfl

/-- Legal accesses keep to the map. -/
theorem closed_keepsToMap :
    Closed (System.Move (fun offset => (Access.read offset).Legal)
        fun offset => (Access.write offset).Legal)
      fun system : System (Recorded β) γ => system.machine.bank.KeepsToMap := by
  refine System.closed_of_bank (fun offset legal recorded kept => ?_)
    fun offset value legal recorded kept => ?_
  · unfold KeepsToMap
    rw [accesses_read]
    exact List.forall_mem_cons.mpr ⟨legal, kept⟩
  · unfold KeepsToMap
    rw [accesses_write]
    exact List.forall_mem_cons.mpr ⟨legal, kept⟩

end Recorded

/-- What a dispatch reads. -/
theorem legal_of_dispatch :
    ∀ offset ∈ [Offset.irqStatus, Offset.enable, Offset.vector], (Access.read offset).Legal := by
  decide

variable [StatusRegister γ]

/-- The handlers make legal accesses only. -/
def Handlers.KeepToMap (handlers : Handlers (Recorded β) γ) : Prop :=
  ∀ active handler, Maintains (fun system : System (Recorded β) γ => system.machine.bank.KeepsToMap)
    (handlers.call active handler)

/-- **A request** of the controller's firmware, with handlers that keep to the map. -/
theorem Handlers.perform_keepsToMap {handlers : Handlers (Recorded β) γ} (keep : handlers.KeepToMap)
    {request : Request Empty} (offered : request.OfController) :
    Maintains (fun system : System (Recorded β) γ => system.machine.bank.KeepsToMap)
      (handlers.perform request) :=
  Handlers.perform_maintains_of_closed
    (fun machine : Machine (Recorded β) γ => machine.bank.KeepsToMap)
    Recorded.closed_keepsToMap legal_of_dispatch (by decide) (fun action => nomatch action) keep
    request offered.legal.1 offered.legal.2

/-- Handlers that use single lines keep to the map. -/
theorem Firmware.keepToMap {firmware : Firmware Empty} (perLine : firmware.PerLine) (frames : Nat) :
    (firmware.handlers frames : Handlers (Recorded β) γ).KeepToMap := by
  have closed := Recorded.closed_keepsToMap (β := β) (γ := γ)
  refine fun _ => Run.invoke_maintains_of_closed closed.of_move nofun
    (fun handler => (perLine handler).imp fun _ perLine => perLine.legal) frames
    fun _ call calls active => ?_
  exact Run.handleIrq_maintains_of_closed closed legal_of_dispatch (by decide) (calls active)

/-- **A session.** -/
theorem Command.session_keepsToMap {firmware : Firmware Empty} (perLine : firmware.PerLine)
    (frames : Nat) {commands : List (Command Empty)}
    (offered : ∀ request ∈ Command.requestsAll commands, request.OfController)
    {system : System (Recorded β) γ} (kept : system.machine.bank.KeepsToMap) :
    (Command.session firmware frames commands system).machine.bank.KeepsToMap := by
  obtain ⟨requests, same, within⟩ := Command.session_eq_carryOut firmware frames commands system
  rw [same]
  refine Handlers.carryOut_maintains _
    (fun system : System (Recorded β) γ => system.machine.bank.KeepsToMap)
    (fun request member => Handlers.perform_keepsToMap (Firmware.keepToMap perLine frames) ?_) kept
  rcases within request member with given | ⟨op, rfl⟩
  · exact offered request given
  · trivial

end Recorded

end VectoredInterrupts
