/-
**While no slot is enabled, the default vector is presented.**

Only a write of a control register enables a slot, and the trace shows it (`Event.EnablesSlot`). So
what the reads of the vector register return can be told from the trace: up to the first such write
it is the default vector, as the writes of that register have left it.

* `Simulated.Disabled.currentVector`: the vector presented when no slot is enabled;
* `Machine.closed_quiet`: one step of code;
* `Handlers.carryOut_quiet`: a run over a firmware, whatever its requests and its handlers do.
-/

import VectoredInterrupts.Proofs.DefaultVector
import VectoredInterrupts.Proofs.Dispatch.Vectored

namespace VectoredInterrupts

/-- A write of a control register that enables its slot. -/
def Event.EnablesSlot : Event → Prop
  | .wrote offset value => (0x200 ≤ offset ∧ offset < 0x240) ∧ value &&& controlEnable ≠ 0
  | _ => False

/-- The default vector after an event. -/
def Event.settleDefault (before : Word) : Event → Word
  | .wrote offset value => if offset = Offset.defaultVector then value else before
  | _ => before

namespace Simulated

/-- No slot is enabled. -/
def Disabled (controller : Simulated) : Prop := ∀ k, (controller.slots.get k).isEnabled = false

variable {controller : Simulated} {offset : Nat} {value : Word}

theorem Disabled.currentVector (disabled : controller.Disabled) :
    controller.currentVector = controller.defaultVector :=
  currentVector_of_silent fun k => by rw [presents, disabled k, Bool.false_and]

/-- A write settles the default vector as its event says. -/
theorem defaultVector_write (offset : Nat) (value : Word) (controller : Simulated) :
    (stateAfter (RegisterBank.write offset value) controller).defaultVector =
      (Event.wrote offset value).settleDefault controller.defaultVector := by
  rw [Event.settleDefault]
  by_cases here : offset = Offset.defaultVector
  · rw [if_pos here]
    have here : Cell.defaultVector.WrittenAt offset := here
    exact BitVec.eq_of_toNat_eq (controller.content_kept here rfl)
  · rw [if_neg here]
    exact (undisturbed_defaultVector _).write offset value here controller rfl

/-- A write that enables no slot leaves none enabled. -/
theorem Disabled.write (disabled : controller.Disabled)
    (enables : ¬ (Event.wrote offset value).EnablesSlot) :
    (stateAfter (RegisterBank.write offset value) controller).Disabled := by
  intro k
  by_cases here : (Cell.slotControl k).WrittenAt offset
  · have kept : (Cell.slotControl k).kept? value = some (value &&& 0x3F) := rfl
    have control := BitVec.eq_of_toNat_eq (controller.content_kept here kept)
    have cleared : value &&& controlEnable = 0 := by
      by_contra enable
      have inside := k.isLt
      exact enables ⟨⟨by have := here.1; omega, by have := here.2; omega⟩, enable⟩
    rw [Slot.isEnabled, control, BitVec.and_assoc,
      show (0x3F : Word) &&& controlEnable = controlEnable by decide, cleared]
    rfl
  · have control := BitVec.eq_of_toNat_eq (controller.content_write value here)
    rw [Slot.isEnabled, control]
    exact disabled k

/-- Nor does a read. -/
theorem Disabled.read (disabled : controller.Disabled) (offset : Nat) :
    (stateAfter (RegisterBank.read offset) controller).Disabled :=
  (congrArg (fun slots : Fin 16 → Slot => ∀ k, (slots k).isEnabled = false)
    (SlotBank.slot_read offset controller)).mpr disabled

end Simulated

/-! ### The trace -/

/-- The machine has gone on from `start`, where no slot was enabled and the default vector was
`default`. -/
structure Machine.Quiet {γ : Type} (start : Array Event) (default : Word)
    (machine : Machine Simulated γ) (events : List Event) : Prop where
  trace : machine.trace = start ++ events.toArray
  /-- Up to the first event that enables a slot, the vectors read are the default vector. -/
  reads : ∀ early late value, events = early ++ .read Offset.vector value :: late →
    (∀ event ∈ early, ¬ event.EnablesSlot) → value = early.foldl Event.settleDefault default
  disabled : (∀ event ∈ events, ¬ event.EnablesSlot) → machine.bank.Disabled
  settled : machine.bank.defaultVector = events.foldl Event.settleDefault default

section Quiet

variable {γ : Type} {start : Array Event} {default : Word} {before after : Machine Simulated γ}
  {events : List Event}

namespace Machine.Quiet

/-- Nothing is recorded. -/
theorem same (quiet : before.Quiet start default events) (trace : after.trace = before.trace)
    (disabled : before.bank.Disabled → after.bank.Disabled)
    (settled : after.bank.defaultVector = before.bank.defaultVector) :
    after.Quiet start default events :=
  ⟨trace.trans quiet.trace, quiet.reads, fun off => disabled (quiet.disabled off),
    settled.trans quiet.settled⟩

/-- One more event. -/
theorem push (quiet : before.Quiet start default events) {event : Event}
    (trace : after.trace = before.trace.push event)
    (reads : before.bank.Disabled → ∀ value, event = .read Offset.vector value →
      value = before.bank.defaultVector)
    (disabled : ¬ event.EnablesSlot → before.bank.Disabled → after.bank.Disabled)
    (settled : after.bank.defaultVector = event.settleDefault before.bank.defaultVector) :
    after.Quiet start default (events ++ [event]) where
  trace := by rw [trace, quiet.trace]; exact Array.ext' (by simp)
  reads early late value split off := by
    rcases List.eq_nil_or_concat late with rfl | ⟨late, last, rfl⟩
    · -- the read is the new event
      obtain ⟨rfl, same⟩ := List.append_inj' split rfl
      rw [reads (quiet.disabled off) value (List.singleton_inj.mp same), quiet.settled]
    · rw [List.concat_eq_append, ← List.cons_append, ← List.append_assoc] at split
      exact quiet.reads early late value (List.append_inj' split rfl).1 off
  disabled off := by
    have earlier := quiet.disabled fun other member => off other (List.mem_append_left _ member)
    exact disabled (off event (by simp)) earlier
  settled := by rw [settled, quiet.settled, List.foldl_append]; rfl

/-- An event that is no access. -/
theorem record (quiet : before.Quiet start default events) {event : Event}
    (trace : after.trace = before.trace.push event) (bank : after.bank = before.bank)
    (silent : ∀ value, event.settleDefault value = value)
    (no_read : ∀ value, event ≠ .read Offset.vector value) :
    after.Quiet start default (events ++ [event]) :=
  quiet.push trace (fun _ value same => absurd same (no_read value))
    (fun _ disabled => bank ▸ disabled) (by rw [bank, silent])

end Machine.Quiet

/-- **One step of code.** -/
theorem Machine.closed_quiet (start : Array Event) (default : Word) :
    Closed (Machine.Step (fun _ => True) fun _ => True)
      fun machine : Machine Simulated γ => ∃ events, machine.Quiet start default events := by
  rintro before after step ⟨events, quiet⟩
  cases step with
  | @read offset _ _ =>
    cases result : RegisterBank.read offset before.bank with
    | ok value bank =>
      have left := stateAfter_ok result
      rw [stateAfter_ok (Bus.read_ok result)]
      refine ⟨_, quiet.push rfl (fun disabled word same => ?_) (fun _ disabled => ?_) ?_⟩
      · cases same
        cases result
        exact disabled.currentVector
      · exact left ▸ disabled.read offset
      · exact left ▸ (Simulated.undisturbed_defaultVector _).read offset before.bank rfl
    | error fault bank =>
      rw [stateAfter_error (Bus.read_error result), before.bank.eq_of_read_error result]
      exact ⟨events, quiet⟩
  | @write offset _ value _ =>
    cases result : RegisterBank.write offset value before.bank with
    | ok _ bank =>
      have left := stateAfter_ok result
      rw [stateAfter_ok (Bus.write_ok result)]
      refine ⟨_, quiet.push rfl (fun _ _ same => nomatch same) (fun enables disabled => ?_) ?_⟩
      · exact left ▸ disabled.write enables
      · exact left ▸ Simulated.defaultVector_write offset value before.bank
    | error fault bank =>
      rw [stateAfter_error (Bus.write_error result), before.bank.eq_of_write_error result]
      exact ⟨events, quiet⟩
  | @record event silent _ =>
    have plain : (∀ value, event.settleDefault value = value) ∧
        ∀ value, event ≠ .read Offset.vector value := by
      cases event with
      | read | wrote | dispatched => exact silent.elim
      | _ => exact ⟨fun _ => rfl, fun _ same => by cases same⟩
    exact ⟨_, quiet.record rfl rfl plain.1 plain.2⟩
  | status => exact ⟨events, quiet.same rfl id rfl⟩

theorem System.closed_quiet (start : Array Event) (default : Word) :
    Closed (System.Move (fun _ => True) fun _ => True)
      fun system : System Simulated γ => ∃ events, system.machine.Quiet start default events := by
  intro before after move held
  cases move with
  | step step =>
    cases step with
    | machine step => exact Machine.closed_quiet start default step held
  | counted => exact held
  | marked =>
    obtain ⟨events, quiet⟩ := held
    exact ⟨_, quiet.record rfl rfl (fun _ => rfl) nofun⟩

/-- The bench drives lines only. -/
theorem Simulated.bench_quiet (start : Array Event) (default : Word) (action : BenchAction) :
    Maintains (fun machine : Machine Simulated γ => ∃ events, machine.Quiet start default events)
      (Bus.onBank (Benched.act action)) := by
  rintro machine ⟨events, quiet⟩
  obtain ⟨inputs, after⟩ := Simulated.bench_after action machine.bank
  rw [Bus.stateAfter_onBank, after]
  exact ⟨events, quiet.same rfl id rfl⟩

/-- **A run over a firmware**, whatever its requests and its handlers do. -/
theorem Handlers.carryOut_quiet [StatusRegister γ] (firmware : Firmware Simulated.BenchAction)
    (frames : Nat) (requests : List (Request Simulated.BenchAction)) {system : System Simulated γ}
    (disabled : system.machine.bank.Disabled) :
    ∃ events, ((firmware.handlers frames).carryOut requests system).machine.Quiet
      system.machine.trace system.machine.bank.defaultVector events := by
  have closed := System.closed_quiet (γ := γ) system.machine.trace system.machine.bank.defaultVector
  have benched := Simulated.bench_quiet (γ := γ) system.machine.trace
    system.machine.bank.defaultVector
  refine Handlers.carryOut_maintains _
    (fun system' : System Simulated γ => ∃ events, system'.machine.Quiet system.machine.trace
      system.machine.bank.defaultVector events) (fun request _ => ?_) ?_
  · refine Handlers.perform_maintains_of_closed (fun machine => ∃ events, machine.Quiet _ _ events)
      closed (fun _ _ => trivial) trivial benched (fun active handler => ?_) request
      (fun _ _ => trivial) (fun _ _ => trivial)
    refine Run.invoke_maintains_of_closed closed.of_move (fun action => ?_) (fun handler => ?_)
      frames ?_ handler
    · exact Run.onMachine_maintains fun _ => benched action
    · exact .of_forall fun _ => ⟨fun _ _ => trivial, fun _ _ => trivial⟩
    · exact fun _ call calls active =>
        Run.handleIrq_maintains_of_closed closed (fun _ _ => trivial) trivial (calls active)
  · exact ⟨[], by simp, fun early late value split => by simp at split, fun _ => disabled, rfl⟩

end Quiet

end VectoredInterrupts
