/-
**Choosing a handler.**

A dispatch in vectored mode goes one of five ways: the vector is that of a routine, of the dummy
routine, zero, or the marker of the default vector, which finds a binding or does not. On each of
them one handler is chosen before any handler runs. So the dispatch is the same in all five: it
chooses a handler, serves it, and ends service.

* `Run.handleVectored_eq`: this equation;
* `Run.chooseHandler_address`, `Run.chooseHandler_marker`, `Run.chooseHandler_null`: which handler
  is chosen;
* `Run.Serves`: the dispatch runs a routine that it has chosen;
* `Run.serves_iff_calls`: it marks the routine, calls it, and ends service.
-/

import VectoredInterrupts.Proofs.Dispatch.Vectored

namespace VectoredInterrupts

namespace Run

variable {β γ : Type} [RegisterBank β]

/-- The first binding past the slots whose line is enabled, or a spurious interrupt. -/
def chooseUnslotted : Run β γ Handler := do
  let enabled ← onMachine Bus.enabledLines
  match ((← get).vectored.toList.drop slotCount).findSome? (enabledBinding? enabled) with
  | some (line, routine) =>
    onMachine (Bus.log (.servingUnslotted line))
    return .routine routine
  | none =>
    countSpurious
    return .routine .dummy

/-- The handler that a vector stands for. The dummy routine counts as spurious. -/
def chooseFor (vector : Word) : Run β γ Handler :=
  match Routine.ofAddress? vector with
  | some .fallback => chooseUnslotted
  | some .dummy => do
    countSpurious
    return .routine .dummy
  | some routine => return .routine routine
  | none => do
    onMachine (Bus.log .nullVector)
    countSpurious
    return .routine .dummy

/-- Reads the vector, and chooses the handler it stands for. -/
def chooseHandler : Run β γ Handler := do
  let vector ← onMachine Bus.vector
  if vector ≠ 0 ∧ Routine.ofAddress? vector = none then throw .notARoutine
  onMachine (Bus.log (.vectorRead vector))
  chooseFor vector

theorem serveVector_eq (serve : Handler → Run β γ Unit) (vector : Word) :
    serveVector serve vector = chooseFor vector >>= serve := by
  unfold serveVector chooseFor
  cases Routine.ofAddress? vector with
  | none => simp only [serveSpurious, bind_assoc, pure_bind]
  | some routine =>
    cases routine with
    | dummy => simp only [serveSpurious, bind_assoc, pure_bind]
    | user number => simp only [pure_bind]
    | fallback =>
      simp only [serviceUnslotted, chooseUnslotted, bind_assoc]
      congr 1
      funext enabled
      congr 1
      funext system
      cases (system.vectored.toList.drop slotCount).findSome? (enabledBinding? enabled) with
      | none => simp [serveSpurious]
      | some found => simp

/-- **A dispatch in vectored mode** serves one handler, whichever way it goes. -/
theorem handleVectored_eq (serve : Handler → Run β γ Unit) :
    handleVectored serve = (do
      serve (← chooseHandler)
      onMachine Bus.acknowledge : Run β γ Unit) := by
  unfold handleVectored chooseHandler
  simp only [serveVector_eq, bind_assoc]
  congr 1
  funext vector
  split
  · rfl
  · simp only [bind_assoc]

/-- Once the vector has been read, a choice reads one more register at most. -/
theorem chooseFor_maintains {readable writable : Nat → Prop} {holds : System β γ → Prop}
    (closed : Closed (System.Step readable writable) holds)
    (counted : ∀ system : System β γ, holds system →
      holds { system with spurious := system.spurious + 1 })
    (enable : readable Offset.enable) (vector : Word) :
    Maintains holds (do onMachine (Bus.log (.vectorRead vector)); chooseFor vector) := by
  have logs : ∀ notice, Maintains holds (onMachine (Bus.log notice) : Run β γ Unit) :=
    log_maintains closed
  have counts : Maintains holds (do countSpurious; return .routine .dummy : Run β γ Handler) :=
    .bind (.modify counted) fun _ => .pure _
  refine (logs _).bind fun _ => ?_
  unfold chooseFor
  split
  · refine Maintains.bind (readLines_maintains closed enable) fun enabled => ?_
    refine .bind .get fun system => ?_
    cases (system.vectored.toList.drop slotCount).findSome? (enabledBinding? enabled) with
    | none => exact counts
    | some found => exact (logs _).bind fun _ => .pure _
  · exact counts
  · exact .pure _
  · exact (logs _).bind fun _ => counts

/-- A choice that returns has read the vector first. -/
theorem vector_of_chooseHandler {system chosen : System β γ} {handler : Handler}
    (chooses : chooseHandler system = .ok handler chosen) :
    ∃ vector begun, onMachine Bus.vector system = .ok vector begun ∧
      (do onMachine (Bus.log (.vectorRead vector)); chooseFor vector) begun =
        .ok handler chosen := by
  obtain ⟨vector, begun, read, rest⟩ := bind_eq_ok.mp chooses
  refine ⟨vector, begun, read, ?_⟩
  by_cases unknown : vector ≠ 0 ∧ Routine.ofAddress? vector = none
  · rw [if_pos unknown] at rest
    cases rest
  · rwa [if_neg unknown] at rest

theorem handleIrq_vectored {call : Nat → Handler → Run β γ Unit} {active : Nat}
    {system chosen : System β γ} {handler : Handler} (mode : system.mode = .vectored)
    (chooses : chooseHandler system = .ok handler chosen) :
    handleIrq call active system = (do
      dispatch call active handler
      onMachine Bus.acknowledge : Run β γ Unit) chosen := by
  rw [handleIrq_of_vectored mode, handleVectored_eq, bind_ok chooses]

/-! ### Which handler is chosen -/

/-- **The vector of a routine** stands for the routine. -/
theorem chooseHandler_address {routine : Routine} (named : routine ≠ .fallback)
    {system begun : System β γ} (read : onMachine Bus.vector system = .ok routine.address begun) :
    chooseHandler system = .ok (.routine routine) (begun.presenting routine) := by
  unfold chooseHandler
  rw [bind_ok read]
  simp only [Routine.ofAddress?_address, reduceCtorEq, and_false, if_false]
  rw [bind_ok (log_ok _ _), chooseFor, Routine.ofAddress?_address]
  cases routine with
  | dummy => rfl
  | fallback => exact absurd rfl named
  | user number => rfl

/-- **The marker of the default vector** stands for the first enabled binding past the slots. -/
theorem chooseHandler_marker {system begun after : System β γ} {enabled : LineSet}
    {order : List (Binding Routine)} (inRange : InRange order)
    (read : onMachine Bus.vector system = .ok Routine.fallback.address begun)
    (lines : onMachine Bus.enabledLines { begun with
      machine := begun.machine.logged (.vectorRead Routine.fallback.address) } = .ok enabled after)
    (lists : after.vectored.Lists order) :
    chooseHandler system =
      .ok (.routine ((unslotted enabled order).elim .dummy Binding.payload))
        (after.searched (unslotted enabled order)) := by
  unfold chooseHandler
  rw [bind_ok read]
  simp only [Routine.ofAddress?_address, reduceCtorEq, and_false, if_false]
  rw [bind_ok (log_ok _ _), chooseFor, Routine.ofAddress?_address]
  simp only [chooseUnslotted]
  rw [bind_ok lines, bind_get, lists.findSome?_unslotted inRange]
  cases unslotted enabled order with
  | none => rfl
  | some binding => exact bind_ok (log_ok _ _)

/-- **The null vector** stands for the dummy routine, which is counted. -/
theorem chooseHandler_null {system begun : System β γ}
    (read : onMachine Bus.vector system = .ok 0 begun) :
    chooseHandler system = .ok (.routine .dummy) { begun with
      machine := (begun.machine.logged (.vectorRead 0)).logged .nullVector
      spurious := begun.spurious + 1 } := by
  have nowhere : Routine.ofAddress? 0 = none := by decide
  unfold chooseHandler
  rw [bind_ok read]
  simp only [ne_eq, not_true_eq_false, false_and, if_false]
  rw [bind_ok (log_ok _ _), chooseFor, nowhere]
  exact bind_ok (log_ok _ _)

/-- The dispatch chooses a routine. Up to then it has counted `missed` interrupts as spurious, and
it has not touched the tables. -/
structure Chooses (system : System β γ) (routine : Routine) (missed : Nat) (chosen : System β γ) :
    Prop where
  chooses : chooseHandler system = .ok (.routine routine) chosen
  registry : chosen.registry = system.registry
  spurious : chosen.spurious = system.spurious + missed

/-! ### Over the simulated controller -/

section Simulated

variable {γ : Type} {system : System Simulated γ}

theorem chooses_of_presented {routine : Routine} (named : routine ≠ .fallback)
    (presented : system.machine.bank.currentVector = routine.address) :
    ∃ chosen, Chooses system routine (if routine = .dummy then 1 else 0) chosen := by
  obtain ⟨begun, read, -⟩ := Simulated.vector_ok system
  obtain ⟨kept, uncounted⟩ := onMachine_leaves read
  rw [presented] at read
  exact ⟨_, chooseHandler_address named read, kept, congrArg (· + _) uncounted⟩

theorem chooses_of_null (presented : system.machine.bank.currentVector = 0) :
    ∃ chosen, Chooses system .dummy 1 chosen := by
  obtain ⟨begun, read, -⟩ := Simulated.vector_ok system
  obtain ⟨kept, uncounted⟩ := onMachine_leaves read
  rw [presented] at read
  exact ⟨_, chooseHandler_null read, kept, congrArg (· + 1) uncounted⟩

theorem chooses_of_marker {order : List (Binding Routine)} (inRange : InRange order)
    (lists : system.vectored.Lists order)
    (presented : system.machine.bank.currentVector = Routine.fallback.address) :
    ∃ chosen, Chooses system
      ((unslotted system.machine.bank.enabled order).elim .dummy Binding.payload)
      (if unslotted system.machine.bank.enabled order = none then 1 else 0) chosen := by
  obtain ⟨begun, read, -⟩ := Simulated.vector_ok system
  rw [presented] at read
  obtain ⟨scanned, lines, kept, uncounted⟩ :=
    Simulated.enabledLines_ok read (.vectorRead Routine.fallback.address)
  have same : scanned.vectored = system.vectored := congrArg Registry.vectored kept
  refine ⟨_, chooseHandler_marker inRange read lines (same ▸ lists), ?_, ?_⟩
  · rw [System.searched_registry, kept]
  · rw [System.searched_spurious, uncounted]

end Simulated

/-! ### What a dispatch serves -/

/-- The dispatch chooses a routine, runs it, and ends service. -/
def Serves (call : Nat → Handler → Run β γ Unit) (active : Nat) (system : System β γ)
    (routine : Routine) : Prop :=
  ∃ chosen, chooseHandler system = .ok (.routine routine) chosen ∧
    handleIrq call active system = (do
      dispatch call active (.routine routine)
      onMachine Bus.acknowledge : Run β γ Unit) chosen

theorem serves_of_chooses {system : System β γ} (mode : system.mode = .vectored)
    (call : Nat → Handler → Run β γ Unit) (active : Nat) {routine : Routine} {missed : Nat}
    (chooses : ∃ chosen, Chooses system routine missed chosen) :
    Serves call active system routine := by
  obtain ⟨chosen, chooses⟩ := chooses
  exact ⟨chosen, chooses.chooses, handleIrq_vectored mode chooses.chooses⟩

/-- **The one call of a dispatch:** the routine that it has chosen is marked and called, and then
service ends. -/
theorem serves_iff_calls {call : Nat → Handler → Run β γ Unit} {active : Nat} {system : System β γ}
    {routine : Routine} :
    Serves call active system routine ↔
      ∃ chosen, chooseHandler system = .ok (.routine routine) chosen ∧
        Calls call active (onMachine Bus.acknowledge) [.routine routine] chosen
          (handleIrq call active system) :=
  exists_congr fun _ => and_congr_right fun _ => calls_singleton_iff.symm

/-- The call follows the choice, and so what has been counted by then is known. -/
theorem Serves.calls {call : Nat → Handler → Run β γ Unit} {active missed : Nat}
    {system : System β γ} {routine : Routine} (serves : Serves call active system routine)
    (known : ∃ chosen, Chooses system routine missed chosen) :
    ∃ chosen, Chooses system routine missed chosen ∧
      Calls call active (onMachine Bus.acknowledge) [.routine routine] chosen
        (handleIrq call active system) := by
  obtain ⟨chosen, chooses⟩ := known
  obtain ⟨other, also, calls⟩ := serves_iff_calls.mp serves
  obtain rfl : chosen = other := (EStateM.Result.ok.inj (chooses.chooses.symm.trans also)).2
  exact ⟨chosen, chooses, calls⟩

/-- A dispatch runs one routine. -/
theorem Serves.unique {call : Nat → Handler → Run β γ Unit} {active : Nat} {system : System β γ}
    {first second : Routine} (serves : Serves call active system first)
    (also : Serves call active system second) : first = second := by
  obtain ⟨_, chooses, -⟩ := serves
  obtain ⟨_, chooses_also, -⟩ := also
  cases chooses.symm.trans chooses_also
  rfl

end Run

end VectoredInterrupts
