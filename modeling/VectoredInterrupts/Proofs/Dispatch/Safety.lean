/-
**Dispatches that cannot fail.**

A step is *safe* if it returns, or stops at a fault that is accounted for. Where a bank completes
every legal access, and the polled table lists what registrations have left, a dispatch has one way
to stop: the vector it reads is not the address of a routine. Handlers that keep to operations on
single lines add none, as deep as the nesting bound lets them nest.

* `Run.handleIrq_safe`: a dispatch, with handlers that are safe;
* `Run.perform_safe`, `Firmware.invoke_safe`: the handlers of a firmware.
-/

import VectoredInterrupts.Proofs.Totality
import VectoredInterrupts.Proofs.Dispatch.Currency
import VectoredInterrupts.Proofs.Dispatch.Handshake

namespace VectoredInterrupts

/-! ### Safe steps -/

section Safe

variable {β γ α ρ : Type}

/-- Where the property holds, the step returns and it still holds, or the step stops at one of
certain faults. -/
def Run.Safe (stops : Fault → Prop) (holds : System β γ → Prop) (step : Run β γ α) : Prop :=
  ∀ system, holds system → step.ReturnsUnless stops system fun _ after => holds after

namespace Run.Safe

variable {stops : Fault → Prop} {holds : System β γ → Prop}

theorem pure (value : α) : Safe stops holds (pure value : Run β γ α) :=
  fun system held => .inl ⟨value, system, rfl, held⟩

theorem bind {first : Run β γ α} {next : α → Run β γ ρ} (head : Safe stops holds first)
    (tail : ∀ value, Safe stops holds (next value)) : Safe stops holds (first >>= next) :=
  fun system held => (head system held).bind fun value after => tail value after

theorem ite {condition : Prop} [Decidable condition] {first second : Run β γ α}
    (yes : Safe stops holds first) (no : Safe stops holds second) :
    Safe stops holds (if condition then first else second) := by
  by_cases decided : condition
  · rwa [if_pos decided]
  · rwa [if_neg decided]

theorem forM {list : List ρ} {step : ρ → Run β γ PUnit}
    (each : ∀ item, Safe stops holds (step item)) : Safe stops holds (list.forM step) := by
  induction list with
  | nil => exact pure _
  | cons head rest ih => exact (each head).bind fun _ => ih

theorem of_total {step : Run β γ α} (total : Total step) (maintains : Maintains holds step) :
    Safe stops holds step := by
  intro system held
  obtain ⟨value, after, returned⟩ := total system
  exact .inl ⟨value, after, returned, maintains.of_ok held returned⟩

theorem of_returns {step : Run β γ α}
    (returns : ∀ system, holds system → step.ReturnsUnless stops system fun _ _ => True)
    (maintains : Maintains holds step) : Safe stops holds step := by
  intro system held
  rcases returns system held with ⟨value, after, returned, -⟩ | stopped
  · exact .inl ⟨value, after, returned, maintains.of_ok held returned⟩
  · exact .inr stopped

end Run.Safe

end Safe

/-! ### Dispatches -/

section Dispatch

variable {β γ α : Type} [RegisterBank β] {stops : Fault → Prop} {valid : β → Prop}

/-- What the firmware relies on: both tables list what registrations have left, and the bank is
valid. -/
structure System.Sound (valid : β → Prop) (system : System β γ) : Prop where
  polled : system.polled.Listed
  vectored : system.vectored.Listed
  bank : valid system.machine.bank

/-- A bank that the firmware can depend on: it completes legal accesses, it stays valid unless slots
or the default vector are written, and it presents the addresses of routines, or a dispatch may
stop. -/
structure Dependable (stops : Fault → Prop) (valid : β → Prop) : Prop where
  compliant : Compliant β
  undisturbed : Undisturbed Offset.Plain valid
  presents : ∀ bank, valid bank → ∀ value after,
    RegisterBank.read Offset.vector bank = .ok value after → value.IsVector ∨ stops .notARoutine

theorem System.closed_sound (undisturbed : Undisturbed Offset.Plain valid) :
    Closed (System.Move (fun _ => True) Offset.Plain)
      fun system : System β γ => system.Sound valid := by
  intro before after move sound
  have bank := System.closed_of_undisturbed (fun _ => undisturbed) move sound.bank
  cases move with
  | step step =>
    cases step with
    | machine step => exact ⟨sound.polled, sound.vectored, bank⟩
  | counted | marked => exact ⟨sound.polled, sound.vectored, bank⟩

theorem Word.IsVector.known {word : Word} (vector : word.IsVector) :
    ¬ (word ≠ 0 ∧ Routine.ofAddress? word = none) := by
  rintro ⟨somewhere, unknown⟩
  obtain ⟨routine, found, -⟩ := vector.resolve_left somewhere
  rw [unknown] at found
  cases found

namespace Run

omit [RegisterBank β] in
/-- A scan of the polled table meets no line beyond the set. -/
theorem servicePolled_safe {serve : Handler → Run β γ Unit}
    (serves : ∀ handler, Safe stops (System.Sound valid) (serve handler)) (status : LineSet) :
    Safe stops (System.Sound valid) (servicePolled serve status) := by
  intro system sound
  obtain ⟨changes, lists⟩ := sound.polled
  rw [ReturnsUnless, servicePolled_eq _ status _ (live_inRange changes).arranged lists]
  exact (Safe.forM serves).bind (fun _ => .pure _) system sound

variable (dependable : Dependable stops valid)

include dependable

/-- A step of the machine that returns, and writes neither slots nor the default vector. -/
theorem onMachine_safe {step : Bus β γ α} (total : Total step)
    (maintains : ∀ {holds : Machine β γ → Prop},
      Closed (Machine.Step (fun _ => True) Offset.Plain) holds → Maintains holds step) :
    Safe stops (System.Sound valid) (onMachine step) :=
  .of_total (onMachine_total total) (onMachine_maintains fun system =>
    maintains ((System.closed_sound dependable.undisturbed).of_move.machine system))

theorem log_safe (notice : Notice) :
    Safe stops (System.Sound valid) (onMachine (Bus.log notice) : Run β γ Unit) :=
  onMachine_safe dependable (Bus.log_total _) fun closed => Bus.log_maintains closed _

theorem readLines_safe {offset : Nat} (legal : (Access.read offset).Legal) :
    Safe stops (System.Sound valid)
      (onMachine (do return (← Bus.read offset).lines) : Run β γ LineSet) :=
  onMachine_safe dependable (Bus.readLines_total dependable.compliant legal) fun closed =>
    Bus.readLines_maintains closed trivial

section Serve

variable {serve : Handler → Run β γ Unit}
  (serves : ∀ handler, Safe stops (System.Sound valid) (serve handler))

include serves

theorem serviceUnslotted_safe : Safe stops (System.Sound valid) (serviceUnslotted serve) := by
  refine (readLines_safe dependable (by decide)).bind fun enabled system sound => ?_
  rw [ReturnsUnless, bind_get]
  cases (system.vectored.toList.drop slotCount).findSome? (enabledBinding? enabled) with
  | none => exact Safe.pure false system sound
  | some found =>
    exact (log_safe dependable _).bind
      (fun _ => (serves _).bind fun _ => .pure true) system sound

theorem serveSpurious_safe (handler : Handler) :
    Safe stops (System.Sound valid) (serveSpurious serve handler) := by
  refine Safe.bind (fun system sound => .inl ⟨(), _, rfl, ?_⟩) fun _ => serves handler
  exact System.closed_sound dependable.undisturbed (.counted system) sound

theorem serveVector_safe (vector : Word) :
    Safe stops (System.Sound valid) (serveVector serve vector) := by
  unfold serveVector
  split
  · refine (serviceUnslotted_safe dependable serves).bind fun found => ?_
    exact .ite (.pure _) (serveSpurious_safe dependable serves _)
  · exact serveSpurious_safe dependable serves _
  · exact serves _
  · exact (log_safe dependable _).bind fun _ => serveSpurious_safe dependable serves _

end Serve

/-- **A dispatch**, with handlers that are safe. -/
theorem handleIrq_safe {call : Nat → Handler → Run β γ Unit} {active : Nat}
    (calls : ∀ handler, Safe stops (System.Sound valid) (call active handler)) :
    Safe stops (System.Sound valid) (handleIrq call active) := by
  have closed := System.closed_sound (γ := γ) dependable.undisturbed
  have serves : ∀ handler, Safe stops (System.Sound valid) (dispatch call active handler) := by
    refine fun handler => Safe.bind (fun system sound => .inl ⟨(), _, rfl, ?_⟩)
      fun _ => calls handler
    exact closed (.marked active handler system) sound
  intro system sound
  rw [ReturnsUnless, handleIrq, bind_get]
  cases system.mode with
  | polled =>
    refine Safe.bind (readLines_safe dependable (by decide)) (fun status => ?_) system sound
    refine (log_safe dependable _).bind fun _ => ?_
    refine (servicePolled_safe serves status).bind fun _ => ?_
    exact .ite (serveSpurious_safe dependable serves _) (.pure _)
  | vectored =>
    obtain ⟨vector, bank, read⟩ :=
      dependable.compliant.read Offset.vector (by decide) system.machine.bank
    have accepted := dependable.presents _ sound.bank _ _ read
    obtain ⟨begun, begins⟩ : ∃ begun, onMachine Bus.vector system = .ok vector begun :=
      ⟨_, onMachine_ok (Bus.read_ok read)⟩
    have presented : Maintains (System.Sound valid) (onMachine Bus.vector : Run β γ Word) :=
      onMachine_maintains fun now => Bus.read_maintains (closed.of_move.machine now) trivial
    have later := presented.of_ok sound begins
    have rest : Safe stops (System.Sound valid) (do
        onMachine (Bus.log (.vectorRead vector))
        serveVector (dispatch call active) vector
        onMachine Bus.acknowledge) := by
      refine (log_safe dependable _).bind fun _ =>
        (serveVector_safe dependable serves vector).bind fun _ => ?_
      exact onMachine_safe dependable (Bus.write_total dependable.compliant _ (by decide))
        fun closed => Bus.write_maintains closed _ (by decide)
    show (handleVectored (dispatch call active)).ReturnsUnless stops system _
    unfold handleVectored
    rw [ReturnsUnless, bind_ok begins]
    by_cases unknown : vector ≠ 0 ∧ Routine.ofAddress? vector = none
    · rw [if_pos unknown]
      exact .inr ⟨_, _, rfl, accepted.resolve_left fun vector => vector.known unknown⟩
    · rw [if_neg unknown]
      exact rest begun later

end Run

end Dispatch

/-! ### Handlers -/

/-- An operation on one line writes neither slots nor the default vector. -/
theorem LineOp.plain_of_written {op : LineOp} {offset : Nat} (written : offset ∈ op.written?) :
    Offset.Plain offset :=
  ⟨not_ofSlot_of_written written, fun same => op.written_ne_defaultVector (same ▸ written)⟩

/-- Nor does a handler that keeps to single lines. -/
theorem Action.PerLine.plain {ι : Type} {action : Action ι} (perLine : action.PerLine) :
    ∀ offset ∈ action.written?, Offset.Plain offset := by
  cases action with
  | line op => exact fun _ => LineOp.plain_of_written
  | status | interrupt => exact nofun
  | register | bench | call | fail => exact perLine.elim

section Handlers

variable {ι β γ : Type} [RegisterBank β] [StatusRegister γ] [Benched ι β] {stops : Fault → Prop}
  {valid : β → Prop} (dependable : Dependable stops valid)

include dependable

/-- An action of a handler that keeps to single lines. -/
theorem Run.perform_safe {nesting active : Nat} {call : Nat → Handler → Run β γ Unit}
    (deeper : 0 < active → active < nesting →
      ∀ handler, Safe stops (System.Sound valid) (call (active + 1) handler))
    {action : Action ι} (perLine : action.PerLine) :
    Safe stops (System.Sound valid) (perform nesting call active action) := by
  cases action with
  | line op =>
    exact onMachine_safe dependable (op.perform_total dependable.compliant) fun closed =>
      op.perform_maintains closed (fun _ _ => trivial) fun _ => LineOp.plain_of_written
  | status op =>
    exact onMachine_safe dependable op.perform_total fun closed => op.perform_maintains closed
  | interrupt =>
    by_cases taken : 0 < active ∧ active < nesting
    · rw [perform, if_pos taken]
      exact (handleIrq_safe dependable (deeper taken.1 taken.2)).bind fun _ => .pure _
    · rw [perform, if_neg taken]
      exact .pure _
  | register | bench | call | fail => exact perLine.elim

omit [RegisterBank β] [StatusRegister γ] [Benched ι β] dependable in
theorem Program.run_safe {holds : System β γ → Prop} {perform : Action ι → Run β γ Reply}
    {allowed : Action ι → Prop}
    (performs : ∀ action, allowed action → Run.Safe stops holds (perform action))
    (replies : ∀ reply,
      Run.Safe stops holds (Run.onMachine (Bus.record (.returned reply)) : Run β γ Unit))
    {program : Program ι} (uses : program.Uses allowed) :
    Run.Safe stops holds (program.run perform) := by
  induction program with
  | finish => exact .pure _
  | act action next ih =>
    exact (performs action uses.1).bind fun reply => (replies reply).bind fun _ =>
      ih reply (uses.2 reply)

/-- **The handlers of a firmware.** Each interrupt takes a frame, so there have to be more frames
than interrupts can nest. The induction is on the frames left. -/
theorem Firmware.invoke_safe {firmware : Firmware ι} (perLine : firmware.PerLine)
    {frames active : Nat} (left : 0 < frames) (enough : firmware.nesting < frames + active)
    (handler : Handler) :
    Run.Safe stops (System.Sound valid)
      (Run.invoke firmware frames active handler : Run β γ Unit) := by
  induction frames generalizing active handler with
  | zero => exact absurd left (Nat.lt_irrefl 0)
  | succ frames ih =>
    have records : ∀ event : Event, event.Silent → Run.Safe stops (System.Sound valid)
        (Run.onMachine (Bus.record event) : Run β γ Unit) := fun event silent =>
      Run.onMachine_safe dependable (Bus.record_total event) fun closed =>
        Bus.record_maintains closed silent
    have user : Run.Safe stops (System.Sound valid) (do
        Run.onMachine (Bus.record (.entered handler))
        (firmware.program handler).run
          (Run.perform firmware.nesting (Run.invoke firmware frames) active) : Run β γ Unit) := by
      refine (records (.entered handler) trivial).bind fun _ => Program.run_safe
        (fun action allowed => ?_) (fun reply => records (.returned reply) trivial)
        (perLine handler)
      refine Run.perform_safe dependable (fun inside nests handler => ?_) allowed
      exact ih (by omega) (by omega) handler
    unfold Run.invoke
    split
    · exact Run.log_safe dependable _
    · exact Run.log_safe dependable _
    · exact Run.log_safe dependable _
    · exact user
    · exact user

end Handlers

end VectoredInterrupts
