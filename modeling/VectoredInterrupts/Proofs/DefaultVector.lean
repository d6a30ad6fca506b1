/-
**The default vector.**

The default vector of the simulated controller is a register of its own: it holds what was last
written to it, by setting up, by a request that sets it, or by a plain write at its offset
(`Request.defaultVector?`). Nothing else changes it.

* `Simulated.undisturbed_defaultVector`: accesses at other offsets;
* `Handlers.defaultVector_after`: one request;
* `Handlers.carryOut_defaultVector`: after a run it is the last one set, or the one before the run.
-/

import VectoredInterrupts.Proofs.Runs
import VectoredInterrupts.Proofs.Simulated.Cells

namespace VectoredInterrupts

/-! ### The register -/

namespace Simulated

/-- Accesses at other offsets leave the default vector alone. -/
theorem undisturbed_defaultVector (word : Word) :
    Undisturbed (fun offset => offset ≠ Offset.defaultVector)
      fun controller : Simulated => controller.defaultVector = word where
  read offset controller before := by
    by_cases here : offset = Offset.vector
    · subst here
      exact before
    · show (stateAfter (RegisterBank.read offset) controller).defaultVector = word
      rw [controller.stateAfter_read here, before]
  write offset value other controller before := by
    have elsewhere : ¬ Cell.defaultVector.WrittenAt offset := other
    exact (BitVec.eq_of_toNat_eq (controller.content_write value elsewhere)).trans before

theorem bench_defaultVector (word : Word) (action : BenchAction) :
    Maintains (fun controller : Simulated => controller.defaultVector = word)
      (Benched.act action) := by
  intro controller before
  obtain ⟨inputs, after⟩ := bench_after action controller
  rw [after]
  exact before

end Simulated

/-! ### Requests -/

/-- The default vector that a request sets, if it sets one. -/
def Request.defaultVector? {ι : Type} : Request ι → Option Word
  | .action (.register (.setDefaultVector address)) => some address
  | .action (.register (.write offset value)) =>
    if offset = Offset.defaultVector then some value else none
  | .operation .init => some Routine.fallback.address
  | _ => none

theorem RegisterOp.written_defaultVector {op : RegisterOp}
    (written : op.written? = some Offset.defaultVector) :
    (∃ address, op = .setDefaultVector address) ∨
      ∃ value, op = .write Offset.defaultVector value := by
  cases op with
  | setDefaultVector address => exact .inl ⟨address, rfl⟩
  | write offset value =>
    obtain rfl := Option.some.inj written
    exact .inr ⟨value, rfl⟩
  | setSlotAddress slot value =>
    have same := Option.some.inj written
    simp only [Offset.slotAddress, Offset.slotAddressBase, Offset.defaultVector] at same
    omega
  | setSlotControl slot value =>
    have same := Option.some.inj written
    simp only [Offset.slotControl, Offset.slotControlBase, Offset.defaultVector] at same
    omega
  | _ => cases written

theorem LineOp.written_ne_defaultVector (op : LineOp) :
    op.written? ≠ some Offset.defaultVector := by
  cases op <;> nofun

section Requests

variable {γ : Type}

/-- No handler changes the default vector. -/
def Handlers.SpareDefaultVector (handlers : Handlers Simulated γ) : Prop :=
  ∀ active handler system,
    (stateAfter (handlers.call active handler) system).machine.bank.defaultVector =
      system.machine.bank.defaultVector

theorem closed_defaultVector (word : Word) :
    Closed (System.Move (fun _ => True) fun offset => offset ≠ Offset.defaultVector)
      fun system : System Simulated γ => system.machine.bank.defaultVector = word :=
  System.closed_of_undisturbed fun _ => Simulated.undisturbed_defaultVector word

/-- A slot register is not the default vector. -/
theorem Offset.OfSlot.ne_defaultVector {offset : Nat} (ofSlot : Offset.OfSlot offset) :
    offset ≠ Offset.defaultVector := by
  simp only [Offset.OfSlot, Offset.slotAddressBase, Offset.slotControlBase] at ofSlot
  simp only [Offset.defaultVector]
  omega

/-- What the write of the default vector leaves when the controller is set up stays, if slots and
tables do not matter to it. -/
theorem Run.init_after_default (holds : System Simulated γ → Prop) {readable writable : Nat → Prop}
    (closed : Closed (System.Step readable writable) holds)
    (slots : ∀ offset, Offset.OfSlot offset → writable offset)
    (reads : ∀ place ∈ [0, 1, 2, 3], readable (Offset.peripheralId + place * 4))
    (tables : ∀ (system : System Simulated γ) polled vectored mode spurious, holds system →
      holds ⟨system.machine, polled, vectored, mode, spurious⟩)
    (sets : ∀ system : System Simulated γ,
      holds (stateAfter (onMachine (Bus.setDefaultVector Routine.fallback.address)) system))
    (system : System Simulated γ) : holds (stateAfter Run.init system) := by
  obtain ⟨first, select⟩ := write_writable Offset.select (by simp) 0 system
  obtain ⟨second, disable⟩ := write_writable Offset.enableClear (by simp) allLines
    { system with machine := first }
  obtain ⟨third, withdraw⟩ := write_writable Offset.softClear (by simp) allLines
    { system with machine := second }
  unfold Run.init
  rw [stateAfter_bind (by exact select), stateAfter_bind (by exact disable),
    stateAfter_bind (by exact withdraw)]
  refine Maintains.after_bind holds (sets _) fun _ => ?_
  refine (updateVectored_maintains closed (fun _ register => slots _ register.ofSlot)
    (fun system _ => tables system _ _ _ _) _).bind fun _ => ?_
  refine Maintains.bind (.modify fun system => tables system _ _ _ _) fun _ => .bind
    (.modify fun system => tables system _ _ _ _) fun _ => ?_
  exact onMachine_maintains fun system => Bus.announce_maintains (closed.machine system) reads

theorem Run.setDefaultVector_after (word : Word) (system : System Simulated γ) :
    (stateAfter (Run.onMachine (Bus.setDefaultVector word)) system).machine.bank.defaultVector =
      word :=
  rfl

/-- Setting up sets the default vector. -/
theorem Run.init_defaultVector (system : System Simulated γ) :
    (stateAfter Run.init system).machine.bank.defaultVector = Routine.fallback.address :=
  init_after_default
    (fun system => system.machine.bank.defaultVector = Routine.fallback.address)
    (closed_defaultVector _).of_move (fun _ ofSlot => ofSlot.ne_defaultVector)
    (fun _ _ => trivial) (fun _ _ _ _ _ before => before) (setDefaultVector_after _) system

variable [StatusRegister γ]

/-- The handlers of a firmware spare the default vector if its programs do. -/
theorem Firmware.spareDefaultVector (firmware : Firmware Simulated.BenchAction)
    (uses : ∀ handler, (firmware.program handler).Uses
      fun action => ∀ offset ∈ action.written?, offset ≠ Offset.defaultVector) (frames : Nat) :
    (firmware.handlers frames : Handlers Simulated γ).SpareDefaultVector := by
  intro active handler system
  exact Run.invoke_maintains
    (fun _ controller => controller.defaultVector = system.machine.bank.defaultVector)
    (fun _ => Simulated.undisturbed_defaultVector _) (fun _ => Simulated.bench_defaultVector _)
    (by decide) uses frames active handler system rfl

variable {handlers : Handlers Simulated γ} (spare : handlers.SpareDefaultVector)

include spare

/-- **A request** sets the default vector or leaves it alone. -/
theorem Handlers.defaultVector_after (request : Request Simulated.BenchAction)
    (system : System Simulated γ) :
    (stateAfter (handlers.perform request) system).machine.bank.defaultVector =
      request.defaultVector?.getD system.machine.bank.defaultVector := by
  have undisturbed : ∀ word, ∀ registry : Registry, Undisturbed
      (fun offset => offset ≠ Offset.defaultVector)
      fun controller : Simulated => controller.defaultVector = word :=
    fun word _ => Simulated.undisturbed_defaultVector word
  have calls : ∀ word active handler, Maintains
      (fun system : System Simulated γ => system.machine.bank.defaultVector = word)
      (handlers.call active handler) :=
    fun word active handler system before => (spare active handler system).trans before
  have elsewhere : ∀ action : Action Simulated.BenchAction,
      action.written? ≠ some Offset.defaultVector →
        (stateAfter (handlers.perform (.action action)) system).machine.bank.defaultVector =
          system.machine.bank.defaultVector :=
    fun action other => Run.perform_maintains (undisturbed _)
      (fun _ => Simulated.bench_defaultVector _) (by decide) (calls _) _ _ action
      (fun offset member same => other (same ▸ member)) system rfl
  cases request with
  | action action =>
    cases action with
    | register op =>
      by_cases written : op.written? = some Offset.defaultVector
      · rcases RegisterOp.written_defaultVector written with ⟨address, rfl⟩ | ⟨value, rfl⟩
        · rfl
        · rfl
      · rw [elsewhere (.register op) written]
        cases op with
        | setDefaultVector address => exact absurd rfl written
        | write offset value =>
          rw [Request.defaultVector?, if_neg fun same => written (congrArg some same)]
          rfl
        | _ => rfl
    | line op =>
      rw [elsewhere (.line op) (LineOp.written_ne_defaultVector op)]
      rfl
    | status op => exact elsewhere (.status op) nofun
    | bench action => exact elsewhere (.bench action) nofun
    | call handler => exact elsewhere (.call handler) nofun
    | interrupt => exact elsewhere .interrupt nofun
    | fail => exact elsewhere .fail nofun
  | operation op =>
    by_cases setUp : op = .init
    · subst setUp
      rw [handlers.stateAfter_init]
      exact Run.init_defaultVector system
    · have plain : (Request.operation op : Request Simulated.BenchAction).defaultVector? = none := by
        cases op with
        | init => exact absurd rfl setUp
        | _ => rfl
      rw [plain]
      refine op.perform_maintains_of_closed (closed_defaultVector _).of_move (fun _ _ => trivial)
        (fun offset written => ?_) (fun _ => calls _ 0)
        (fun _ => Run.handleIrq_maintains (undisturbed _) (by decide) (calls _) 1)
        (fun _ _ before => before) (fun _ _ _ before => before) (fun _ _ _ before => before)
        (fun _ _ _ before => before) system rfl
      cases op with
      | init => exact absurd rfl setUp
      | bindVectored | releaseVectored | releaseAllVectored | clearVectored | enableSlot
      | disableSlot | disableAllSlots => exact written.ofSlot.ne_defaultVector
      | _ => cases written

/-- **The default vector after a run.** -/
theorem Handlers.carryOut_defaultVector (requests : List (Request Simulated.BenchAction))
    (system : System Simulated γ) :
    (handlers.carryOut requests system).machine.bank.defaultVector =
      (requests.filterMap Request.defaultVector?).getLast?.getD
        system.machine.bank.defaultVector :=
  handlers.carryOut_last (fun system => system.machine.bank.defaultVector) Request.defaultVector?
    (fun request _ system => handlers.defaultVector_after spare request system) system

end Requests

end VectoredInterrupts
