/-
**The simulated controller enforces its register map, whatever happens to it.**

What happens to a controller is a `Stimulus`: a read or a write at any offset, or an action of the
bench. A stimulus changes no cell but those that it touches. One that is not supported faults, and
might as well not have happened. The reads of the vector register and the writes to it are counted.

* `Simulated.content_perform`, `Simulated.content_after`: the cells after one stimulus and after many;
* `Simulated.after_filter`, `Simulated.answers_filter`: stimuli that fault leave no mark;
* `Simulated.counters_perform`: the counters after a stimulus;
* `Simulated.register_map_enforced`: the register map, in every state that a controller can reach.
-/

import VectoredInterrupts.Proofs.Parts
import VectoredInterrupts.Proofs.Simulated.Cells

namespace VectoredInterrupts

namespace Simulated

/-! ### Stimuli -/

/-- What happens to a controller: an access, supported or not, or an action of the bench. -/
inductive Stimulus where
  | read (offset : Nat)
  | write (offset : Nat) (value : Word)
  | bench (action : BenchAction)
deriving DecidableEq

namespace Stimulus

/-- How a controller answers. -/
def perform : Stimulus → EStateM Fault Simulated Reply
  | .read offset => return .word (← RegisterBank.read offset)
  | .write offset value => do RegisterBank.write offset value; return .done
  | .bench action => Benched.act action

/-- The access is on the map, and the line exists. -/
def Supported : Stimulus → Prop
  | .read offset => Offset.Readable offset
  | .write offset _ => Offset.Writable offset
  | .bench (.raise line) | .bench (.lower line) => line < lineCount
  | .bench _ => True

instance : DecidablePred Supported
  | .read offset => inferInstanceAs (Decidable (Offset.Readable offset))
  | .write offset _ => inferInstanceAs (Decidable (Offset.Writable offset))
  | .bench (.raise line) | .bench (.lower line) => inferInstanceAs (Decidable (line < lineCount))
  | .bench .vectorReads | .bench .acknowledgements | .bench .inService =>
    inferInstanceAs (Decidable True)

/-- The cells that may be changed. -/
def Touches : Stimulus → Cell → Prop
  | .read offset, cell => offset = Offset.vector ∧ (cell = .vectorReads ∨ cell = .inService)
  | .write offset _, cell => cell.WrittenAt offset
  | .bench (.raise _), cell | .bench (.lower _), cell => cell = .inputs
  | .bench _, _ => False

end Stimulus

/-- The controller after stimuli, whether it answers them or faults. -/
def after (controller : Simulated) (stimuli : List Stimulus) : Simulated :=
  stimuli.foldl (fun controller stimulus => stateAfter stimulus.perform controller) controller

/-- The answers to stimuli. -/
def answers (controller : Simulated) : List Stimulus → List (Except Fault Reply)
  | [] => []
  | stimulus :: rest =>
    outcome stimulus.perform controller :: (stateAfter stimulus.perform controller).answers rest

section Stimuli

variable {stimulus : Stimulus} {stimuli : List Stimulus} (controller : Simulated)

theorem Stimulus.perform_ok (supported : stimulus.Supported) :
    ∃ reply after, stimulus.perform controller = .ok reply after := by
  cases stimulus with
  | read offset =>
    obtain ⟨value, after, returns⟩ := read_returns controller supported
    exact ⟨.word value, after, bind_ok returns⟩
  | write offset value =>
    obtain ⟨after, returns⟩ := write_returns controller supported value
    exact ⟨.done, after, bind_ok returns⟩
  | bench action =>
    cases action with
    | raise line | lower line =>
      obtain ⟨inputs, drives⟩ := drive_ok supported _ controller
      exact ⟨.done, _, bind_ok drives⟩
    | _ => exact ⟨_, _, rfl⟩

/-- What is not supported faults, and changes nothing. -/
theorem Stimulus.perform_error (unsupported : ¬ stimulus.Supported) :
    ∃ fault, stimulus.perform controller = .error fault controller := by
  cases stimulus with
  | read offset => exact ⟨_, bind_error (read_eq_error controller unsupported)⟩
  | write offset value => exact ⟨_, bind_error (write_eq_error controller unsupported value)⟩
  | bench action =>
    cases action with
    | raise line | lower line =>
      exact ⟨.lineBeyondSet, bind_error (drive_error unsupported _ controller)⟩
    | _ => exact absurd trivial unsupported

/-- **A stimulus** changes the cells that it touches. -/
theorem content_perform {cell : Cell} (untouched : ¬ stimulus.Touches cell) :
    (stateAfter stimulus.perform controller).content cell = controller.content cell := by
  cases stimulus with
  | read offset =>
    rw [Stimulus.perform, stateAfter_reply]
    by_cases here : offset = Offset.vector
    · subst here
      cases cell with
      | vectorReads => exact absurd ⟨rfl, .inl rfl⟩ untouched
      | inService => exact absurd ⟨rfl, .inr rfl⟩ untouched
      | _ => rfl
    · rw [stateAfter_read controller here]
  | write offset value =>
    rw [Stimulus.perform, stateAfter_reply]
    exact content_write controller value untouched
  | bench action =>
    cases action with
    | raise | lower =>
      obtain ⟨inputs, after⟩ := bench_after _ controller
      rw [Stimulus.perform, after]
      cases cell with
      | inputs => exact absurd rfl untouched
      | _ => rfl
    | _ => rfl

/-- **Stimuli** change the cells that one of them touches. -/
theorem content_after {cell : Cell} (untouched : ∀ stimulus ∈ stimuli, ¬ stimulus.Touches cell) :
    (controller.after stimuli).content cell = controller.content cell := by
  induction stimuli generalizing controller with
  | nil => rfl
  | cons first rest ih =>
    refine (ih _ fun stimulus member => untouched stimulus (List.mem_cons_of_mem _ member)).trans ?_
    exact content_perform controller (untouched first List.mem_cons_self)

/-- Stimuli that fault leave no mark on the controller. -/
theorem after_filter (stimuli : List Stimulus) :
    controller.after (stimuli.filter (·.Supported)) = controller.after stimuli := by
  induction stimuli generalizing controller with
  | nil => rfl
  | cons first rest ih =>
    by_cases supported : first.Supported
    · rw [List.filter_cons_of_pos (by simpa using supported)]
      exact ih _
    · obtain ⟨fault, faults⟩ := Stimulus.perform_error controller supported
      rw [List.filter_cons_of_neg (by simpa using supported), ih]
      show _ = (stateAfter first.perform controller).after rest
      rw [stateAfter_error faults]

/-- Nor on its answers to the others, which it all gives. -/
theorem answers_filter (stimuli : List Stimulus) :
    controller.answers (stimuli.filter (·.Supported)) =
      (controller.answers stimuli).filter Except.isOk := by
  induction stimuli generalizing controller with
  | nil => rfl
  | cons first rest ih =>
    by_cases supported : first.Supported
    · obtain ⟨reply, after, returns⟩ := Stimulus.perform_ok controller supported
      have answered : outcome first.perform controller = .ok reply := by rw [outcome, returns]
      rw [List.filter_cons_of_pos (by simpa using supported), answers, answers, answered,
        List.filter_cons_of_pos rfl, ih]
    · obtain ⟨fault, faults⟩ := Stimulus.perform_error controller supported
      have answered : outcome first.perform controller = .error fault := by rw [outcome, faults]
      rw [List.filter_cons_of_neg (by simpa using supported), answers, answered,
        List.filter_cons_of_neg (by nofun), stateAfter_error faults, ih]

end Stimuli

/-! ### Counters -/

namespace Stimulus

/-- A read of the vector register. -/
def readsVector : Stimulus → Bool
  | .read offset => offset == Offset.vector
  | _ => false

/-- A write of the vector register. -/
def writesVector : Stimulus → Bool
  | .write offset _ => offset == Offset.vector
  | _ => false

/-- The level of service, from the level before. -/
def level (stimulus : Stimulus) (before : Nat) : Nat :=
  if stimulus.readsVector then before + 1
  else if stimulus.writesVector then before - 1 else before

/-- An access to the vector register, or none. -/
theorem cases_vector (stimulus : Stimulus) :
    stimulus = .read Offset.vector ∨ (∃ value, stimulus = .write Offset.vector value) ∨
      (stimulus.readsVector = false ∧ stimulus.writesVector = false) := by
  cases stimulus with
  | read offset =>
    by_cases here : offset = Offset.vector
    · exact .inl (congrArg _ here)
    · exact .inr (.inr ⟨beq_eq_false_iff_ne.mpr here, rfl⟩)
  | write offset value =>
    by_cases here : offset = Offset.vector
    · exact .inr (.inl ⟨value, congrArg (Stimulus.write · value) here⟩)
    · exact .inr (.inr ⟨rfl, beq_eq_false_iff_ne.mpr here⟩)
  | bench => exact .inr (.inr ⟨rfl, rfl⟩)

/-- What is no access to the vector register does not count. -/
theorem not_touches_counter {stimulus : Stimulus} (reads : stimulus.readsVector = false)
    (writes : stimulus.writesVector = false) :
    ∀ cell ∈ [Cell.vectorReads, .acknowledgements, .inService], ¬ stimulus.Touches cell := by
  intro cell member touches
  cases stimulus with
  | read => exact beq_eq_false_iff_ne.mp reads touches.1
  | write =>
    simp only [List.mem_cons, List.not_mem_nil, or_false] at member
    rcases member with rfl | rfl | rfl
    · exact touches
    · exact beq_eq_false_iff_ne.mp writes touches
    · exact beq_eq_false_iff_ne.mp writes touches
  | bench action =>
    cases action with
    | raise | lower =>
      cases (touches : cell = Cell.inputs)
      simp at member
    | _ => exact touches

end Stimulus

/-- **The counters after a stimulus.** -/
theorem counters_perform (stimulus : Stimulus) (controller : Simulated) :
    let after := stateAfter stimulus.perform controller
    after.vectorReads = controller.vectorReads + (if stimulus.readsVector then 1 else 0) ∧
      after.acknowledgements =
        controller.acknowledgements + (if stimulus.writesVector then 1 else 0) ∧
      after.inService = stimulus.level controller.inService := by
  rcases stimulus.cases_vector with rfl | ⟨value, rfl⟩ | ⟨reads, writes⟩
  · exact ⟨rfl, rfl, rfl⟩
  · exact ⟨rfl, rfl, rfl⟩
  · have keeps := fun cell member =>
      content_perform controller (Stimulus.not_touches_counter reads writes cell member)
    simp only [Stimulus.level, reads, writes]
    exact ⟨keeps .vectorReads (by simp), keeps .acknowledgements (by simp),
      keeps .inService (by simp)⟩

theorem vectorReads_after (stimuli : List Stimulus) (controller : Simulated) :
    (controller.after stimuli).vectorReads =
      controller.vectorReads + stimuli.countP Stimulus.readsVector := by
  induction stimuli generalizing controller with
  | nil => rfl
  | cons first rest ih =>
    refine (ih _).trans ?_
    rw [(counters_perform first controller).1, List.countP_cons]
    omega

theorem acknowledgements_after (stimuli : List Stimulus) (controller : Simulated) :
    (controller.after stimuli).acknowledgements =
      controller.acknowledgements + stimuli.countP Stimulus.writesVector := by
  induction stimuli generalizing controller with
  | nil => rfl
  | cons first rest ih =>
    refine (ih _).trans ?_
    rw [(counters_perform first controller).2.1, List.countP_cons]
    omega

/-- Service has not started more often than the vector was read. -/
theorem inService_le_vectorReads (stimuli : List Stimulus) (controller : Simulated)
    (before : controller.inService ≤ controller.vectorReads) :
    (controller.after stimuli).inService ≤ (controller.after stimuli).vectorReads := by
  induction stimuli generalizing controller with
  | nil => exact before
  | cons first rest ih =>
    refine ih _ ?_
    obtain ⟨reads, -, level⟩ := counters_perform first controller
    rw [reads, level, Stimulus.level]
    split
    · omega
    · split <;> omega

/-! ### The register map -/

/-- The register map, as a controller enforces it. -/
structure Enforces (controller : Simulated) : Prop where
  reads : ∀ offset, (∃ value after, RegisterBank.read offset controller = .ok value after) ↔
    Offset.Readable offset
  reads_off : ∀ offset, ¬ Offset.Readable offset →
    RegisterBank.read offset controller = .error (.unsupportedRead offset) controller
  writes : ∀ offset value, (∃ after, RegisterBank.write offset value controller = .ok () after) ↔
    Offset.Writable offset
  writes_off : ∀ offset value, ¬ Offset.Writable offset →
    RegisterBank.write offset value controller = .error (.unsupportedWrite offset) controller
  /-- Each access is to the word that its offset falls in. -/
  words : ∀ offset register, Register.ofOffset? offset = some register ↔ register.Covers offset
  /-- The line field of a slot names a line. -/
  lines : ∀ slot, (controller.slots.get slot).line < lineCount
  drives : ∀ line level, line < lineCount →
    ∃ inputs, drive line level controller = .ok () { controller with inputs }
  reads_keep : ∀ offset, offset ≠ 0x030 →
    stateAfter (RegisterBank.read offset) controller = controller
  writes_keep : ∀ offset value (cell : Cell), ¬ cell.WrittenAt offset →
    (stateAfter (RegisterBank.write offset value) controller).content cell =
      controller.content cell
  /-- What a cell keeps of a word reads back, at all offsets of the cell and until something touches
  it. -/
  readback : ∀ (cell : Cell) value kept, cell.kept? value = some kept →
    ∀ offset place, cell.WrittenAt offset → cell.WrittenAt place →
    ∀ stimuli : List Stimulus, (∀ stimulus ∈ stimuli, ¬ stimulus.Touches cell) →
      outcome (RegisterBank.read place)
        ((stateAfter (RegisterBank.write offset value) controller).after stimuli) = .ok kept
  /-- Nothing but the cells can change. -/
  cells : ∀ other : Simulated, (∀ cell, other.content cell = controller.content cell) →
    other = controller
  /-- What faults has no effect on what comes later. -/
  usable : ∀ stimuli : List Stimulus,
    controller.after stimuli = controller.after (stimuli.filter (·.Supported)) ∧
      (controller.answers stimuli).filter Except.isOk =
        controller.answers (stimuli.filter (·.Supported))

theorem enforces (controller : Simulated) : controller.Enforces where
  reads offset := by
    refine ⟨fun ⟨value, after, returns⟩ => ?_, controller.read_returns⟩
    by_contra unreadable
    cases (controller.read_eq_error unreadable).symm.trans returns
  reads_off _ := controller.read_eq_error
  writes offset value := by
    refine ⟨fun ⟨after, returns⟩ => ?_, fun writable => controller.write_returns writable value⟩
    by_contra unwritable
    cases (controller.write_eq_error unwritable value).symm.trans returns
  writes_off _ value unwritable := controller.write_eq_error unwritable value
  words _ _ := Register.ofOffset?_eq_some_iff
  lines slot := by
    have bound : (controller.slots.get slot).line ≤ 0x1F := Nat.and_le_right
    exact Nat.lt_of_le_of_lt bound (by decide)
  drives _ level small := drive_ok small level controller
  reads_keep _ := controller.stateAfter_read
  writes_keep _ value _ := controller.content_write value
  cells _ := eq_of_content
  readback cell value kept keeps offset place here there stimuli untouched := by
    have content := (content_after _ untouched).trans (controller.content_kept here keeps)
    rw [outcome, read_kept _ there keeps content]
  usable stimuli := ⟨(controller.after_filter stimuli).symm, (controller.answers_filter stimuli).symm⟩

/-- The bytes of a control register are one register, which keeps six bits. -/
example : outcome (RegisterBank.read 0x200) ((stateAfter (RegisterBank.write 0x203 0xFFF)
    powerUp).after [.write 0x000 7, .read 0x030, .write 0x204 0]) = .ok 0x3F := by
  rfl

/-- **The register map is enforced** in every state that a controller can reach, and its counters
stay in their range as long as there are fewer accesses to the vector register. -/
theorem register_map_enforced (stimuli : List Stimulus)
    (few : stimuli.countP Stimulus.readsVector + stimuli.countP Stimulus.writesVector <
      counterRange) :
    (powerUp.after stimuli).Enforces ∧ (powerUp.after stimuli).vectorReads < counterRange ∧
      (powerUp.after stimuli).acknowledgements < counterRange ∧
      (powerUp.after stimuli).inService < counterRange := by
  have reads : (powerUp.after stimuli).vectorReads = 0 + stimuli.countP Stimulus.readsVector :=
    vectorReads_after stimuli powerUp
  have writes : (powerUp.after stimuli).acknowledgements =
      0 + stimuli.countP Stimulus.writesVector :=
    acknowledgements_after stimuli powerUp
  have level := inService_le_vectorReads stimuli powerUp (Nat.le_refl 0)
  exact ⟨enforces _, by omega, by omega, by omega⟩

theorem register_map_enforced_after_faults :
    let controller := powerUp.after
      [.bench (.raise 3), .read 0x014, .bench (.raise 32), .read 0x030, .write 0x000 7]
    controller.Enforces ∧ controller.vectorReads < counterRange ∧
      controller.acknowledgements < counterRange ∧ controller.inService < counterRange :=
  register_map_enforced _ (by decide)

end Simulated

end VectoredInterrupts
