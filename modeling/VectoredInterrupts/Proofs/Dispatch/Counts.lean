/-
**What the simulated controller counts.**

It counts the reads of the vector register and the writes to it, and keeps the level of service:
one up at a read, one down at a write, and never below zero. A dispatch begins with the one and ends
with the other, and what it serves is balanced, so the level is back at its end. Between the two it
is one up for every dispatch in progress, which is why the lower bound is never felt.

* `Simulated.closed_counts`: accesses to other registers do not count;
* `System.Dispatches.evenly`, `System.Conducts.evenly`: a dispatch, and code that conducts itself;
* `System.Inside.inService`: the level of service inside a handler;
* `System.closed_counted`: the counters go by the accesses in the trace.
-/

import VectoredInterrupts.Proofs.DefaultVector
import VectoredInterrupts.Proofs.Dispatch.Conduct

namespace VectoredInterrupts

namespace Simulated

/-- What the controller counts: reads of the vector, acknowledgements, and the level of service. -/
def counts (controller : Simulated) : Nat × Nat × Nat :=
  (controller.vectorReads, controller.acknowledgements, controller.inService)

/-- As many reads as acknowledgements, and the level of service is as it was. -/
def Evenly (before after : Simulated) : Prop :=
  ∃ number, after.vectorReads = before.vectorReads + number ∧
    after.acknowledgements = before.acknowledgements + number ∧
    after.inService = before.inService

theorem Evenly.of_counts {before after : Simulated} (same : after.counts = before.counts) :
    before.Evenly after := by
  obtain ⟨reads, rest⟩ := Prod.ext_iff.mp same
  obtain ⟨acknowledgements, level⟩ := Prod.ext_iff.mp rest
  exact ⟨0, reads, acknowledgements, level⟩

theorem Evenly.trans {before middle after : Simulated} (first : before.Evenly middle)
    (second : middle.Evenly after) : before.Evenly after := by
  obtain ⟨number, reads, acknowledgements, level⟩ := first
  obtain ⟨more, more_reads, more_acknowledgements, level_after⟩ := second
  exact ⟨number + more, by omega, by omega, level_after.trans level⟩

variable {offset : Nat} (counted : Nat × Nat × Nat)

/-- Reads of other registers do not count. -/
theorem read_counts (elsewhere : offset ≠ Offset.vector) :
    Maintains (fun controller : Simulated => controller.counts = counted)
      (RegisterBank.read offset) := by
  intro controller before
  show (stateAfter (RegisterBank.read offset) controller).counts = counted
  rw [controller.stateAfter_read elsewhere, before]

/-- Nor do writes. -/
theorem write_counts (value : Word) (elsewhere : offset ≠ Offset.vector) :
    Maintains (fun controller : Simulated => controller.counts = counted)
      (RegisterBank.write offset value) := by
  intro controller before
  have kept : ∀ cell : Cell, ¬ cell.WrittenAt offset →
      (stateAfter (RegisterBank.write offset value) controller).content cell =
        controller.content cell := fun _ => controller.content_write value
  rw [← before]
  exact Prod.ext (kept .vectorReads id)
    (Prod.ext (kept .acknowledgements elsewhere) (kept .inService elsewhere))

theorem closed_counts (γ : Type) :
    Closed (System.Step (· ≠ Offset.vector) (· ≠ Offset.vector))
      fun system : System Simulated γ => system.machine.bank.counts = counted :=
  (Machine.closed_of_bank (fun _ => read_counts counted) fun _ => write_counts counted).of_machine

theorem bench_counts (action : BenchAction) (controller : Simulated) :
    (stateAfter (Benched.act action) controller).counts = controller.counts := by
  obtain ⟨inputs, after⟩ := bench_after action controller
  rw [after]
  rfl

end Simulated

section Counts

variable {γ : Type} {active : Nat} {before after chosen : System Simulated γ}

/-- A choice reads the vector, once. -/
theorem Run.counts_of_chooseHandler {handler : Handler}
    (chooses : chooseHandler before = .ok handler chosen) :
    chosen.machine.bank.counts =
      (before.machine.bank.vectorReads + 1, before.machine.bank.acknowledgements,
        before.machine.bank.inService + 1) := by
  obtain ⟨vector, begun, presented, rest⟩ := vector_of_chooseHandler chooses
  obtain ⟨bank, read, ended⟩ := read_eq_ok presented
  refine (chooseFor_maintains (Simulated.closed_counts _ γ) (fun _ same => same) (by decide)
    vector).of_ok ?_ rest
  rw [ended]
  cases read
  rfl

namespace System

variable {runs : Handler → System Simulated γ → System Simulated γ → Prop}
  (even : ∀ handler begun ended, runs handler begun ended →
    begun.machine.bank.Evenly ended.machine.bank)

include even

/-- The rest of a dispatch in polled mode. -/
theorem Proceeds.evenly (proceeds : Proceeds runs active before after) :
    before.machine.bank.Evenly after.machine.bank := by
  induction proceeds with
  | rest => exact .of_counts rfl
  | logged notice _ ih => exact (Machine.logged_bank _ notice).symm ▸ ih
  | counted _ ih => exact ih
  | served _ ran ih =>
    have served := even _ _ _ ran
    exact ih.trans served

/-- **A dispatch.** -/
theorem Dispatches.evenly (dispatches : before.Dispatches runs active after) :
    before.machine.bank.Evenly after.machine.bank := by
  cases dispatches with
  | @vectored chosen ended _ handler mode chooses ran ends =>
    have begins := Run.counts_of_chooseHandler chooses
    simp only [Simulated.counts, Prod.mk.injEq] at begins
    obtain ⟨number, reads, acknowledgements, level⟩ := even _ _ _ ran
    obtain ⟨bank, written, same⟩ := Run.write_eq_ok ends
    cases written
    rw [same]
    -- service ends where it has begun, so the level is not at its lower bound
    exact ⟨number + 1, by simp only [marked] at *; omega, by simp only [marked] at *; omega,
      by simp only [marked] at *; omega⟩
  | polled mode read proceeds =>
    have same := (Run.readLines_maintains (Simulated.closed_counts before.machine.bank.counts γ)
      (by decide)).of_ok rfl read
    exact (Simulated.Evenly.of_counts same).trans (proceeds.evenly even)

end System

/-- **Code that conducts itself.** -/
theorem System.Conducts.evenly (conducts : Conducts Simulated.BenchAction active before after) :
    before.machine.bank.Evenly after.machine.bank := by
  induction conducts with
  | rest => exact .of_counts rfl
  | step _ step ih => exact ih.trans (.of_counts (Simulated.closed_counts _ γ step rfl))
  | bench action _ ih =>
    refine ih.trans (.of_counts ?_)
    rw [Run.stateAfter_onMachine, Bus.stateAfter_onBank]
    exact Simulated.bench_counts action _
  | interrupt _ _ dispatches ih handlers => exact ih.trans (dispatches.evenly handlers)

end Counts

/-! ### Inside a handler -/

/-- The moments inside nested dispatches in vectored mode. Each dispatch was taken by the handler
that the one before it serves, the outermost one at `start`; there are `depth` of them. What a
handler has done by a moment is what code does that conducts itself, see `Program.Reaches.conducts`.
-/
inductive System.Inside (ι : Type) {β γ : Type} [RegisterBank β] [Benched ι β] (active : Nat)
    (start : System β γ) : Nat → System β γ → Prop
  | outside : Inside ι active start 0 start
  | handler {depth : Nat} {middle chosen now : System β γ} {handler : Handler}
      (inside : Inside ι active start depth middle) (mode : middle.mode = .vectored)
      (chooses : Run.chooseHandler middle = .ok handler chosen)
      (conducts : Conducts ι (active + depth) (chosen.marked (active + depth) handler) now) :
      Inside ι active start (depth + 1) now

/-- **The level of service inside a handler** is one up for every dispatch in progress. -/
theorem System.Inside.inService {γ : Type} {active depth : Nat} {start now : System Simulated γ}
    (inside : Inside Simulated.BenchAction active start depth now) :
    now.machine.bank.inService = start.machine.bank.inService + depth := by
  induction inside with
  | outside => rfl
  | handler _ _ chooses conducts ih =>
    obtain ⟨-, -, -, level⟩ := conducts.evenly
    have begins := Run.counts_of_chooseHandler chooses
    simp only [Simulated.counts, Prod.mk.injEq] at begins
    rw [level]
    simp only [marked]
    omega

/-! ### The counters and the trace -/

section Accesses

variable {β γ : Type}

/-- How often the vector register has been read or written. -/
def Machine.vectorAccesses (machine : Machine β γ) : Nat :=
  machine.trace.toList.countP Event.ofVector

/-- The controller has counted the accesses to the vector register, and service has not started more
often than the vector was read. -/
structure Machine.Counted (machine : Machine Simulated γ) : Prop where
  accesses : machine.bank.vectorReads + machine.bank.acknowledgements = machine.vectorAccesses
  level : machine.bank.inService ≤ machine.bank.vectorReads

theorem Machine.vectorAccesses_push {before after : Machine β γ} {event : Event}
    (trace : after.trace = before.trace.push event) :
    after.vectorAccesses = before.vectorAccesses + if event.ofVector then 1 else 0 := by
  unfold vectorAccesses
  rw [trace, Array.toList_push, List.countP_append, List.countP_singleton]

variable {before after : Machine Simulated γ}

/-- Nothing that matters to the counters has happened. -/
theorem Machine.Counted.of_counts (counted : before.Counted)
    (counts : after.bank.counts = before.bank.counts)
    (accesses : after.vectorAccesses = before.vectorAccesses) : after.Counted := by
  simp only [Simulated.counts, Prod.mk.injEq] at counts
  obtain ⟨reads, acknowledgements, level⟩ := counts
  exact ⟨by rw [reads, acknowledgements, accesses, counted.accesses],
    by rw [reads, level]; exact counted.level⟩

theorem Machine.Counted.record (counted : before.Counted) {event : Event}
    (elsewhere : event.ofVector = false) (counts : after.bank.counts = before.bank.counts)
    (trace : after.trace = before.trace.push event) : after.Counted := by
  refine counted.of_counts counts ?_
  rw [vectorAccesses_push trace, elsewhere]
  rfl

/-- A read counts as an access to the vector register just when it is one. -/
theorem Machine.Counted.read (counted : before.Counted) (offset : Nat) :
    (stateAfter (Bus.read offset) before).Counted := by
  by_cases here : offset = Offset.vector
  · subst here
    have reads : RegisterBank.read Offset.vector before.bank = .ok before.bank.currentVector
        { before.bank with
          vectorReads := before.bank.vectorReads + 1
          inService := before.bank.inService + 1 } := rfl
    rw [stateAfter_ok (Bus.read_ok reads)]
    refine ⟨?_, Nat.succ_le_succ counted.level⟩
    rw [vectorAccesses_push rfl, ← counted.accesses]
    exact Nat.add_right_comm _ _ _
  · have same := Simulated.read_counts before.bank.counts here before.bank rfl
    have elsewhere : ∀ value, (Event.read offset value).ofVector = false :=
      fun _ => beq_eq_false_iff_ne.mpr here
    cases result : RegisterBank.read offset before.bank with
    | ok value bank =>
      rw [stateAfter_ok result] at same
      rw [stateAfter_ok (Bus.read_ok result)]
      exact counted.record (elsewhere value) same rfl
    | error fault bank =>
      rw [stateAfter_error result] at same
      rw [stateAfter_error (Bus.read_error result)]
      exact counted.of_counts same rfl

/-- So does a write. -/
theorem Machine.Counted.write (counted : before.Counted) (offset : Nat) (value : Word) :
    (stateAfter (Bus.write offset value) before).Counted := by
  by_cases here : offset = Offset.vector
  · subst here
    have writes : RegisterBank.write Offset.vector value before.bank = .ok ()
        { before.bank with
          acknowledgements := before.bank.acknowledgements + 1
          inService := before.bank.inService - 1 } := rfl
    rw [stateAfter_ok (Bus.write_ok writes)]
    refine ⟨?_, (Nat.sub_le _ 1).trans counted.level⟩
    rw [vectorAccesses_push rfl, ← counted.accesses]
    rfl
  · have same := Simulated.write_counts before.bank.counts value here before.bank rfl
    have elsewhere : (Event.wrote offset value).ofVector = false := beq_eq_false_iff_ne.mpr here
    cases result : RegisterBank.write offset value before.bank with
    | ok _ bank =>
      rw [stateAfter_ok result] at same
      rw [stateAfter_ok (Bus.write_ok result)]
      exact counted.record elsewhere same rfl
    | error fault bank =>
      rw [stateAfter_error result] at same
      rw [stateAfter_error (Bus.write_error result)]
      exact counted.of_counts same rfl

/-- **One step of code.** -/
theorem Machine.closed_counted :
    Closed (Machine.Step (fun _ => True) fun _ => True)
      fun machine : Machine Simulated γ => machine.Counted := by
  intro before after step counted
  cases step with
  | read => exact counted.read _
  | write => exact counted.write _ _
  | @record event silent _ =>
    have elsewhere : event.ofVector = false := by
      cases event with
      | read | wrote | dispatched => exact silent.elim
      | _ => rfl
    exact counted.record elsewhere rfl rfl
  | status => exact counted.of_counts rfl rfl

theorem System.closed_counted :
    Closed (System.Move (fun _ => True) fun _ => True)
      fun system : System Simulated γ => system.machine.Counted := by
  intro before after move counted
  cases move with
  | step step =>
    cases step with
    | machine step => exact Machine.closed_counted step counted
  | counted => exact counted
  | marked => exact counted.record rfl rfl rfl

end Accesses

end VectoredInterrupts
