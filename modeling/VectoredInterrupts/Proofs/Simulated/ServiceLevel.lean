/-
**The level of service counts the reads of the vector that are not acknowledged.**

A write of the vector register acknowledges the latest read of it that is not acknowledged yet, and
is lost if there is none. The reads left over are `outstanding`, and the level of service is their
number: surplus acknowledgements are forgotten, so it is no function of how many reads and writes
there were. It is the greatest excess of reads over writes at the end of what has happened
(`net`): one stimulus shifts the excesses of all the ends, and adds the empty one.

* `Simulated.length_outstanding`: the level of service, stimulus by stimulus;
* `Simulated.excesses_concat`, `Simulated.isGreatest_level`: the excesses and the greatest of them;
* `Simulated.service_level_outstanding`: the three counters after any stimuli.
-/

import VectoredInterrupts.Proofs.Simulated.Stimuli
import Mathlib.Order.Bounds.Image
import Mathlib.Order.Bounds.Basic
import Mathlib.Data.Int.Order.Basic

namespace VectoredInterrupts

namespace Simulated

/-- What a stimulus makes of the reads outstanding, if it comes at `position`. -/
def Stimulus.settle (pending : List Nat) (stimulus : Stimulus) (position : Nat) : List Nat :=
  if stimulus.readsVector then position :: pending
  else if stimulus.writesVector then pending.tail else pending

/-- The positions of the reads of the vector that are not acknowledged, the latest first. -/
def outstanding (stimuli : List Stimulus) : List Nat :=
  stimuli.zipIdx.foldl (fun pending (stimulus, position) => stimulus.settle pending position) []

/-- Reads of the vector minus writes of it. -/
def net (stimuli : List Stimulus) : ℤ :=
  stimuli.countP Stimulus.readsVector - stimuli.countP Stimulus.writesVector

/-- The excesses of reads over writes at the end of what has happened. -/
def excesses (stimuli : List Stimulus) : Set ℤ :=
  { excess | ∃ recent, recent <:+ stimuli ∧ excess = net recent }

section Outstanding

variable (stimuli : List Stimulus) (last : Stimulus)

theorem after_concat (controller : Simulated) :
    controller.after (stimuli ++ [last]) = stateAfter last.perform (controller.after stimuli) :=
  List.foldl_concat ..

theorem outstanding_concat :
    outstanding (stimuli ++ [last]) = last.settle (outstanding stimuli) stimuli.length := by
  unfold outstanding
  rw [List.zipIdx_append, List.foldl_append, Nat.zero_add]
  rfl

theorem length_settle (pending : List Nat) (position : Nat) :
    (last.settle pending position).length = last.level pending.length := by
  unfold Stimulus.settle Stimulus.level
  split
  · rfl
  · split
    · exact List.length_tail
    · rfl

/-- **The level of service** is the number of reads outstanding. -/
theorem length_outstanding : (powerUp.after stimuli).inService = (outstanding stimuli).length := by
  induction stimuli using List.reverseRecOn with
  | nil => rfl
  | append_singleton stimuli last ih =>
    rw [after_concat, (counters_perform last _).2.2, outstanding_concat, length_settle, ih]

/-- What is outstanding are reads of the vector, each earlier than the one before it. -/
theorem outstanding_reads :
    (outstanding stimuli).Pairwise (· > ·) ∧
      ∀ position ∈ outstanding stimuli, stimuli[position]? = some (.read Offset.vector) := by
  induction stimuli using List.reverseRecOn with
  | nil => exact ⟨.nil, by nofun⟩
  | append_singleton stimuli last ih =>
    obtain ⟨latest, reads⟩ := ih
    have inside : ∀ position ∈ outstanding stimuli, position < stimuli.length :=
      fun position member => (List.getElem?_eq_some_iff.mp (reads position member)).1
    have still : ∀ position ∈ outstanding stimuli,
        (stimuli ++ [last])[position]? = some (.read Offset.vector) := fun position member =>
      (List.getElem?_append_left (inside position member)).trans (reads position member)
    rw [outstanding_concat]
    rcases last.cases_vector with rfl | ⟨value, rfl⟩ | ⟨noRead, noWrite⟩
    · refine ⟨List.pairwise_cons.mpr ⟨inside, latest⟩, fun position member => ?_⟩
      rcases List.mem_cons.mp member with rfl | member
      · exact List.getElem?_concat_length
      · exact still position member
    · exact ⟨latest.tail, fun position member => still position (List.mem_of_mem_tail member)⟩
    · rw [Stimulus.settle, noRead, noWrite]
      exact ⟨latest, still⟩

/-! ### Excesses -/

theorem net_concat : net (stimuli ++ [last]) = net stimuli + net [last] := by
  unfold net
  rw [List.countP_append, List.countP_append]
  omega

/-- **One stimulus** shifts the excesses, and adds that of the empty end. -/
theorem excesses_concat :
    excesses (stimuli ++ [last]) = insert 0 ((· + net [last]) '' excesses stimuli) := by
  ext excess
  constructor
  · rintro ⟨recent, ends, rfl⟩
    rcases List.suffix_concat_iff.mp ends with rfl | ⟨earlier, rfl, before⟩
    · exact .inl rfl
    · exact .inr ⟨net earlier, ⟨earlier, before, rfl⟩, (net_concat earlier last).symm⟩
  · rintro (rfl | ⟨_, ⟨earlier, ends, rfl⟩, rfl⟩)
    · exact ⟨[], List.nil_suffix, rfl⟩
    · refine ⟨earlier ++ [last], List.suffix_concat_iff.mpr (.inr ⟨earlier, rfl, ends⟩), ?_⟩
      exact (net_concat earlier last).symm

/-- The level follows the greatest excess, which is never below that of the empty end. -/
theorem level_eq_max (before : Nat) : (last.level before : ℤ) = max 0 (before + net [last]) := by
  rcases last.cases_vector with rfl | ⟨value, rfl⟩ | ⟨noRead, noWrite⟩
  · show ((before + 1 : ℕ) : ℤ) = max 0 ((before : ℤ) + 1)
    omega
  · show ((before - 1 : ℕ) : ℤ) = max 0 ((before : ℤ) + -1)
    omega
  · rw [Stimulus.level, net, List.countP_singleton, List.countP_singleton, noRead, noWrite]
    show (before : ℤ) = max 0 (before + 0)
    omega

/-- **The level of service** is the greatest excess. -/
theorem isGreatest_level :
    IsGreatest (excesses stimuli) ((powerUp.after stimuli).inService : ℤ) := by
  induction stimuli using List.reverseRecOn with
  | nil =>
    refine ⟨⟨[], List.nil_suffix, rfl⟩, ?_⟩
    rintro _ ⟨recent, ends, rfl⟩
    rw [List.suffix_nil.mp ends]
    exact le_refl _
  | append_singleton stimuli last ih =>
    have shifted : Monotone fun excess : ℤ => excess + net [last] :=
      fun _ _ less => Int.add_le_add_right less _
    rw [after_concat, (counters_perform last _).2.2, level_eq_max, excesses_concat]
    exact (shifted.map_isGreatest ih).insert 0

end Outstanding

/-- The controller has counted the stimuli. -/
structure Tallies (controller : Simulated) (stimuli : List Stimulus) : Prop where
  reads : controller.vectorReads = stimuli.countP Stimulus.readsVector
  acknowledgements : controller.acknowledgements = stimuli.countP Stimulus.writesVector
  level : controller.inService = (outstanding stimuli).length
  /-- A write of the vector register acknowledges the latest read, since what is outstanding are
  reads, the latest first. -/
  latest : (outstanding stimuli).Pairwise (· > ·) ∧
    ∀ position ∈ outstanding stimuli, stimuli[position]? = some (.read Offset.vector)
  greatest : IsGreatest (excesses stimuli) (controller.inService : ℤ)
  reads_le : controller.vectorReads ≤ controller.acknowledgements + controller.inService
  level_le : controller.inService ≤ controller.vectorReads
  /-- No counter is ahead of the number of stimuli. -/
  range : controller.vectorReads ≤ stimuli.length ∧ controller.acknowledgements ≤ stimuli.length
  elsewhere : ∀ stimulus : Stimulus, stimulus.readsVector = false → stimulus.writesVector = false →
    (stateAfter stimulus.perform controller).vectorReads = controller.vectorReads ∧
      (stateAfter stimulus.perform controller).acknowledgements = controller.acknowledgements ∧
      (stateAfter stimulus.perform controller).inService = controller.inService

/-- **The level of service counts what is outstanding**, whatever has happened to the controller. -/
theorem service_level_outstanding (stimuli : List Stimulus) :
    (powerUp.after stimuli).Tallies stimuli := by
  have reads : (powerUp.after stimuli).vectorReads = stimuli.countP Stimulus.readsVector :=
    (vectorReads_after stimuli powerUp).trans (Nat.zero_add _)
  have acknowledgements :
      (powerUp.after stimuli).acknowledgements = stimuli.countP Stimulus.writesVector :=
    (acknowledgements_after stimuli powerUp).trans (Nat.zero_add _)
  have greatest := isGreatest_level stimuli
  refine ⟨reads, acknowledgements, length_outstanding stimuli, outstanding_reads stimuli, greatest,
    ?_, inService_le_vectorReads stimuli powerUp (Nat.le_refl 0), ?_, ?_⟩
  · -- the end that is everything
    have whole := greatest.2 ⟨stimuli, List.suffix_refl _, rfl⟩
    rw [net, ← reads, ← acknowledgements] at whole
    omega
  · rw [reads, acknowledgements]
    exact ⟨List.countP_le_length, List.countP_le_length⟩
  · intro stimulus noRead noWrite
    obtain ⟨same_reads, same_writes, same_level⟩ := counters_perform stimulus (powerUp.after stimuli)
    rw [noRead] at same_reads
    rw [noWrite] at same_writes
    rw [Stimulus.level, noRead, noWrite] at same_level
    exact ⟨same_reads, same_writes, same_level⟩

/-- Acknowledgements without a read are forgotten. -/
example : outstanding [.write 0x030 0, .read 0x030, .read 0x030, .write 0x030 0, .write 0x030 0,
    .write 0x030 0, .read 0x030] = [6] := by
  rfl

end Simulated

end VectoredInterrupts
