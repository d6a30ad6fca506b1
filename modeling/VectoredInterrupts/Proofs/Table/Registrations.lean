/-
**Registrations.**

What a table holds after a sequence of changes does not depend on how the table is searched and
shifted. `live` keeps, for each line, its last binding unless the line was released or the table
cleared since, in the order in which these bindings were made; `arranged` sorts them by descending
urgency, and leaves equally urgent ones in that order.

* `eq_arranged`: no other order of the same bindings serves the more urgent one first, and the
  older one of two that are equally urgent;
* `Table.lists_change` and `Table.lists_changes`: a table that has gone through some changes lists
  the bindings in force, arranged.
-/

import VectoredInterrupts.Proofs.Table.Density
import VectoredInterrupts.Proofs.Table.Placement
import VectoredInterrupts.RegisterMap
import Mathlib.Data.List.Induction

namespace VectoredInterrupts

/-- What is asked of a table of bindings. -/
inductive Change (α : Type) where
  /-- Binds a line. A binding that the line has is given up. -/
  | bind (line : Nat) (payload : α) (priority : Byte)
  /-- Gives up the binding of a line. -/
  | release (line : Nat)
  /-- Gives up every binding. -/
  | clear
deriving DecidableEq

section Live

variable {α : Type}

/-- Whether a binding of a line does not outlast the change. -/
def Change.ends : Change α → Nat → Bool
  | .bind other _ _, line => other == line
  | .release other, line => other == line
  | .clear, _ => true

/-- The binding that a change makes. A line that does not exist is not bound, and only the low 7
bits of a priority count. -/
def Change.binding? : Change α → Option (Binding α)
  | .bind line payload priority =>
    if line < lineCount then some ⟨line, priority &&& priorityMask, payload⟩ else none
  | .release _ => none
  | .clear => none

/-- The bindings in force after a sequence of changes, in the order in which they were made: those
that no later change ends. -/
def live : List (Change α) → List (Binding α)
  | [] => []
  | change :: later =>
    match change.binding? with
    | some binding =>
      if later.any fun other => other.ends binding.line then live later else binding :: live later
    | none => live later

theorem Change.inRange_of_binding? {change : Change α} {binding : Binding α}
    (made : change.binding? = some binding) : binding.line < lineCount := by
  cases change with
  | bind line payload priority =>
    rw [Change.binding?] at made
    split at made
    · cases made
      assumption
    · cases made
  | release line => cases made
  | clear => cases made

theorem Change.ends_of_binding? {change : Change α} {binding : Binding α}
    (made : change.binding? = some binding) : change.ends binding.line = true := by
  cases change with
  | bind line payload priority =>
    rw [Change.binding?] at made
    split at made
    · cases made
      exact beq_self_eq_true _
    · cases made
  | release line => cases made
  | clear => cases made

theorem live_cons (change : Change α) (later : List (Change α)) :
    live (change :: later) = match change.binding? with
      | some binding =>
        if later.any fun other => other.ends binding.line then live later
        else binding :: live later
      | none => live later :=
  rfl

/-- A change puts its binding behind the ones in force that it does not end. -/
theorem live_concat (changes : List (Change α)) (change : Change α) :
    live (changes ++ [change]) =
      (live changes).filter (fun binding => !change.ends binding.line) ++
        change.binding?.toList := by
  induction changes with
  | nil =>
    rw [List.nil_append, live_cons]
    cases change.binding? <;> rfl
  | cons head rest ih =>
    rw [List.cons_append, live_cons, live_cons]
    cases head.binding? with
    | none => exact ih
    | some binding =>
      simp only [List.any_append, List.any_cons, List.any_nil, Bool.or_false]
      by_cases gone : (rest.any fun other => other.ends binding.line) = true
      · rw [if_pos (by rw [gone, Bool.true_or]), if_pos gone, ih]
      · rw [if_neg gone, Bool.eq_false_iff.mpr gone, Bool.false_or]
        by_cases ended : change.ends binding.line = true
        · rw [if_pos ended, List.filter_cons_of_neg (by simpa using ended), ih]
        · rw [if_neg ended, List.filter_cons_of_pos (by simpa using ended), ih, List.cons_append]

theorem live_inRange (changes : List (Change α)) : InRange (live changes) := by
  induction changes with
  | nil => exact fun _ member => by cases member
  | cons change later ih =>
    rw [live_cons]
    cases made : change.binding? with
    | none => exact ih
    | some binding =>
      simp only
      split
      · exact ih
      · exact List.forall_mem_cons.mpr ⟨Change.inRange_of_binding? made, ih⟩

/-- A binding in force was made by one of the changes. -/
theorem exists_of_mem_live {changes : List (Change α)} {binding : Binding α}
    (member : binding ∈ live changes) : ∃ change ∈ changes, change.binding? = some binding := by
  induction changes with
  | nil => cases member
  | cons change later ih =>
    have behind : binding ∈ live later →
        ∃ other ∈ change :: later, other.binding? = some binding := fun member =>
      (ih member).imp fun _ found => ⟨List.mem_cons_of_mem _ found.1, found.2⟩
    rw [live_cons] at member
    cases made : change.binding? with
    | none =>
      rw [made] at member
      exact behind member
    | some first =>
      rw [made] at member
      simp only at member
      split at member
      · exact behind member
      · rcases List.mem_cons.mp member with rfl | member
        · exact ⟨change, List.mem_cons_self, made⟩
        · exact behind member

/-- A line has one binding in force. -/
theorem live_distinct (changes : List (Change α)) : Distinct (live changes) := by
  induction changes with
  | nil => exact .nil
  | cons change later ih =>
    rw [live_cons]
    cases change.binding? with
    | none => exact ih
    | some binding =>
      simp only
      split
      · exact ih
      · rename_i outlasts
        refine List.pairwise_cons.mpr ⟨fun other member same => outlasts ?_, ih⟩
        obtain ⟨change, found, made⟩ := exists_of_mem_live member
        exact List.any_eq_true.mpr ⟨change, found, same ▸ Change.ends_of_binding? made⟩

end Live

/-! ### Arranging bindings -/

section Arranged

variable {α : Type}

/-- The bindings by descending urgency. Equally urgent ones keep their order. -/
def arranged (bindings : List (Binding α)) : List (Binding α) :=
  bindings.mergeSort fun first second => decide (second.urgency ≤ first.urgency)

@[simp]
theorem arranged_nil : arranged ([] : List (Binding α)) = [] := List.mergeSort_nil

/-- One of two bindings in a list is served before the other: it is more urgent or, if both are
equally urgent, it comes first. -/
def Precedes (bindings : List (Binding α)) (first second : Binding α) : Prop :=
  second.urgency < first.urgency ∨
    (first.urgency = second.urgency ∧ [first, second].Sublist bindings)

theorem arranged_perm (bindings : List (Binding α)) : (arranged bindings).Perm bindings :=
  List.mergeSort_perm _ _

theorem mem_arranged {bindings : List (Binding α)} {binding : Binding α} :
    binding ∈ arranged bindings ↔ binding ∈ bindings :=
  (arranged_perm bindings).mem_iff

theorem arranged_descending (bindings : List (Binding α)) : Descending (arranged bindings) := by
  refine (List.pairwise_mergeSort (fun first second third above below => ?_)
    (fun first second => ?_) bindings).imp of_decide_eq_true
  · rw [decide_eq_true_eq] at above below ⊢
    exact below.trans above
  · rw [Bool.or_eq_true, decide_eq_true_eq, decide_eq_true_eq]
    exact Nat.le_total _ _

theorem Distinct.arranged {bindings : List (Binding α)} (distinct : Distinct bindings) :
    Distinct (arranged bindings) :=
  List.Pairwise.perm distinct (arranged_perm bindings).symm fun apart => apart.symm

theorem InRange.arranged {bindings : List (Binding α)} (inRange : InRange bindings) :
    InRange (arranged bindings) :=
  fun binding member => inRange binding (mem_arranged.mp member)

/-- Of two members of a list without repetitions, one comes first. -/
theorem sublist_or_sublist {bindings : List (Binding α)} {first second : Binding α}
    (left : first ∈ bindings) (right : second ∈ bindings) (different : first ≠ second) :
    [first, second].Sublist bindings ∨ [second, first].Sublist bindings := by
  induction bindings with
  | nil => cases left
  | cons head rest ih =>
    rcases List.mem_cons.mp left with rfl | left_rest
    · have behind := (List.mem_cons.mp right).resolve_left different.symm
      exact .inl ((List.singleton_sublist.mpr behind).cons_cons first)
    · rcases List.mem_cons.mp right with rfl | right_rest
      · exact .inr ((List.singleton_sublist.mpr left_rest).cons_cons second)
      · exact (ih left_rest right_rest).imp (·.cons head) (·.cons head)

theorem not_sublist_of_sublist {bindings : List (Binding α)} (nodup : bindings.Nodup)
    {first second : Binding α} (before : [first, second].Sublist bindings) :
    ¬ [second, first].Sublist bindings := by
  induction bindings with
  | nil => cases before
  | cons head rest ih =>
    obtain ⟨fresh, nodup⟩ := List.nodup_cons.mp nodup
    intro after
    rcases List.cons_sublist_cons'.mp before with before_rest | ⟨rfl, second_in⟩
    · rcases List.cons_sublist_cons'.mp after with after_rest | ⟨rfl, -⟩
      · exact ih nodup before_rest after_rest
      · exact fresh (before_rest.subset (by simp))
    · rcases List.cons_sublist_cons'.mp after with after_rest | ⟨rfl, -⟩
      · exact fresh (after_rest.subset (by simp))
      · exact fresh (List.singleton_sublist.mp second_in)

theorem arranged_pairwise {bindings : List (Binding α)} (nodup : bindings.Nodup) :
    (arranged bindings).Pairwise (Precedes bindings) := by
  have arranged_nodup : (arranged bindings).Nodup := (arranged_perm bindings).nodup_iff.mpr nodup
  refine List.pairwise_iff_forall_sublist.mpr fun {first second} before => ?_
  have above : second.urgency ≤ first.urgency :=
    (arranged_descending bindings).forall_sublist before
  rcases Nat.lt_or_eq_of_le above with higher | level
  · exact .inl higher
  · refine .inr ⟨level.symm, ?_⟩
    have left := mem_arranged.mp (before.subset List.mem_cons_self)
    have right := mem_arranged.mp (before.subset (List.mem_cons_of_mem _ List.mem_cons_self))
    have different : first ≠ second := List.Pairwise.forall_sublist arranged_nodup before
    refine (sublist_or_sublist left right different).resolve_right fun reversed => ?_
    -- the sort keeps the order of equally urgent bindings
    refine not_sublist_of_sublist arranged_nodup before ?_
    refine List.pair_sublist_mergeSort (fun _ _ _ up down => ?_) (fun _ _ => ?_)
      (decide_eq_true level.ge) reversed
    · rw [decide_eq_true_eq] at up down ⊢
      exact down.trans up
    · rw [Bool.or_eq_true, decide_eq_true_eq, decide_eq_true_eq]
      exact Nat.le_total _ _

/-- Of two bindings, one at most is served before the other. -/
theorem Precedes.asymm {bindings : List (Binding α)} (nodup : bindings.Nodup)
    {first second : Binding α} (before : Precedes bindings first second) :
    ¬ Precedes bindings second first := by
  rintro (lower | ⟨level, after⟩)
  · rcases before with higher | ⟨level, -⟩ <;> omega
  · rcases before with higher | ⟨-, before⟩
    · omega
    · exact not_sublist_of_sublist nodup before after

/-- **There is one arrangement.** -/
theorem eq_arranged {bindings order : List (Binding α)} (nodup : bindings.Nodup)
    (perm : order.Perm bindings) (ordered : order.Pairwise (Precedes bindings)) :
    order = arranged bindings := by
  refine List.Perm.eq_of_pairwise (fun first second _ _ before after => ?_) ordered
    (arranged_pairwise nodup) (perm.trans (arranged_perm bindings).symm)
  exact absurd after (before.asymm nodup)

theorem arranged_filter {bindings : List (Binding α)} (nodup : bindings.Nodup)
    (keep : Binding α → Bool) :
    (arranged bindings).filter keep = arranged (bindings.filter keep) := by
  refine eq_arranged (nodup.filter _) ((arranged_perm bindings).filter keep) ?_
  refine List.pairwise_filter.mpr ((arranged_pairwise nodup).imp ?_)
  rintro first second (higher | ⟨level, before⟩) left right
  · exact .inl higher
  · refine .inr ⟨level, ?_⟩
    have kept := before.filter keep
    rwa [List.filter_cons_of_pos left, List.filter_cons_of_pos right, List.filter_nil] at kept

/-- A relation that holds between neighbours of a new binding holds throughout. -/
theorem pairwise_place {R : Binding α → Binding α → Prop} {bindings : List (Binding α)}
    {new : Binding α} (old : bindings.Pairwise R) (descending : Descending bindings)
    (above : ∀ binding ∈ bindings, new.urgency ≤ binding.urgency → R binding new)
    (below : ∀ binding ∈ bindings, binding.urgency < new.urgency → R new binding) :
    (place new bindings).Pairwise R := by
  induction bindings with
  | nil => exact List.pairwise_singleton R new
  | cons head rest ih =>
    obtain ⟨head_old, rest_old⟩ := List.pairwise_cons.mp old
    obtain ⟨head_above, rest_descending⟩ := List.pairwise_cons.mp descending
    rw [place_cons]
    by_cases lower : head.urgency < new.urgency
    · rw [if_pos lower]
      refine List.pairwise_cons.mpr ⟨fun binding member => below binding member ?_, old⟩
      rcases List.mem_cons.mp member with rfl | member
      · exact lower
      · exact (head_above binding member).trans_lt lower
    · rw [if_neg lower]
      refine List.pairwise_cons.mpr ⟨fun binding member => ?_, ih rest_old rest_descending
        (fun binding member => above binding (List.mem_cons_of_mem _ member))
        (fun binding member => below binding (List.mem_cons_of_mem _ member))⟩
      rcases mem_place.mp member with rfl | member
      · exact above head List.mem_cons_self (by omega)
      · exact head_old binding member

/-- The youngest binding is placed behind the others that are as urgent. -/
theorem arranged_concat {bindings : List (Binding α)} {new : Binding α}
    (nodup : (bindings ++ [new]).Nodup) :
    arranged (bindings ++ [new]) = place new (arranged bindings) := by
  have old_nodup : bindings.Nodup := nodup.sublist (List.sublist_append_left _ _)
  refine (eq_arranged nodup ?_ ?_).symm
  · refine (place_perm new _).trans ?_
    refine ((arranged_perm bindings).cons new).trans ?_
    exact (List.perm_append_singleton new bindings).symm
  · refine pairwise_place ?_ (arranged_descending bindings) (fun binding member higher => ?_)
      (fun binding member lower => .inl lower)
    · refine (arranged_pairwise old_nodup).imp ?_
      rintro first second (higher | ⟨level, before⟩)
      · exact .inl higher
      · exact .inr ⟨level, before.trans (List.sublist_append_left _ _)⟩
    · rcases Nat.lt_or_eq_of_le higher with above | level
      · exact .inl above
      · refine .inr ⟨level.symm, ?_⟩
        exact (List.singleton_sublist.mpr (mem_arranged.mp member)).append (List.Sublist.refl [new])

end Arranged

/-! ### Tables that have gone through changes -/

namespace Table

variable {α : Type} [Inhabited α]

/-- The table after a change. -/
def change (table : Table α) : Change α → Table α
  | .bind line payload priority =>
    if line < lineCount then
      table.apply (table.insert (.binding line (priority &&& priorityMask) payload)).writes
    else table
  | .release line => table.apply (table.remove line).writes
  | .clear => table.apply clearWrites

theorem change_clear (table : Table α) : table.change .clear = Table.vacant :=
  apply_clearWrites table

namespace Lists

variable {table : Table α} {bindings : List (Binding α)}

/-- An insertion gives up the binding of the same line. -/
theorem eraseIdx_vacated (lists : table.Lists bindings) (distinct : Distinct bindings)
    (inRange : InRange bindings) {line : Nat} (small : line < lineCount) :
    bindings.eraseIdx (table.vacated (some line)) =
      bindings.filter fun binding => binding.line != line := by
  have room := lists.length_le
  have found : (bindings.findIdx fun binding => binding.line == line) ≤ 31 := by
    by_cases bound : ∃ binding ∈ bindings, binding.line = line
    · obtain ⟨binding, member, same⟩ := bound
      have inside : (bindings.findIdx fun binding => binding.line == line) < bindings.length :=
        List.findIdx_lt_length_of_exists ⟨binding, member, beq_iff_eq.mpr same⟩
      omega
    · have fits := distinct.length_lt inRange small fun binding member same =>
        bound ⟨binding, member, same⟩
      rw [lineCount] at fits
      exact List.findIdx_le_length.trans (by omega)
  rw [lists.vacated, Nat.min_eq_left found, eraseIdx_findIdx_line distinct]

/-- **Insertion of a binding**, with the answer given: the place where the binding is. -/
theorem insert_binding (lists : table.Lists bindings) (descending : Descending bindings)
    (distinct : Distinct bindings) (inRange : InRange bindings) (new : Binding α)
    (small : new.line < lineCount) :
    (table.apply (table.insert new.entry).writes).Lists
        (place new (bindings.filter fun binding => binding.line != new.line)) ∧
      (table.insert new.entry).answer =
        .ok (placeIdx new (bindings.filter fun binding => binding.line != new.line)) := by
  have inserted := lists.insert descending new
  have destination := lists.destination descending new
  rw [lists.eraseIdx_vacated distinct inRange small] at inserted destination
  refine ⟨inserted, ?_⟩
  have others_descending : Descending (bindings.filter fun binding => binding.line != new.line) :=
    List.Pairwise.filter _ descending
  have others_distinct : Distinct (bindings.filter fun binding => binding.line != new.line) :=
    List.Pairwise.filter _ distinct
  have dense := inserted.ifDense
    (pairwise_place others_descending others_descending (fun _ _ above => above)
      fun _ _ below => below.le)
    (List.Pairwise.perm (List.pairwise_cons.mpr ⟨fun other member => ?_, others_distinct⟩)
      (place_perm new _).symm fun apart => apart.symm)
    (fun binding member => ?_) (table.destination new.entry)
  · exact dense.trans (congrArg Except.ok destination)
  · exact (bne_iff_ne.mp (List.mem_filter.mp member).2).symm
  · rcases mem_place.mp member with rfl | member
    · exact small
    · exact inRange binding (List.mem_filter.mp member).1

/-- **Removal of a line**, with the answer given: the place where its binding was. -/
theorem remove_line (lists : table.Lists bindings) (descending : Descending bindings)
    (distinct : Distinct bindings) (inRange : InRange bindings) (line : Nat) :
    (table.apply (table.remove line).writes).Lists
        (bindings.filter fun binding => binding.line != line) ∧
      (table.remove line).answer = .ok (table.position line) := by
  have position := lists.position line
  unfold Table.remove
  cases found : table.position line with
  | none =>
    rw [found] at position
    refine ⟨?_, rfl⟩
    rw [List.filter_eq_self.mpr fun binding member => ?_]
    · exact lists
    · have other := List.findIdx?_eq_none_iff.mp position.symm binding member
      rw [bne, other]
      rfl
  | some index =>
    rw [found] at position
    have inside := List.findIdx?_eq_some_iff_findIdx_eq.mp position.symm
    have removed := lists.remove inside.1
    rw [← inside.2, eraseIdx_findIdx_line distinct line, inside.2] at removed
    refine ⟨removed, ?_⟩
    exact removed.ifDense (List.Pairwise.filter _ descending) (List.Pairwise.filter _ distinct)
      (fun binding member => inRange binding (List.mem_filter.mp member).1) _

end Lists

omit [Inhabited α] in
theorem filter_elsewhere (bindings : List (Binding α)) (line : Nat) :
    (bindings.filter fun binding => !(line == binding.line)) =
      bindings.filter fun binding => binding.line != line := by
  refine List.filter_congr fun binding _ => ?_
  rw [bne, Bool.beq_comm]

/-- **One change.** -/
theorem lists_change {table : Table α} {bindings : List (Binding α)}
    (lists : table.Lists (arranged bindings)) (distinct : Distinct bindings)
    (inRange : InRange bindings) (change : Change α) :
    (table.change change).Lists
      (arranged (bindings.filter (fun binding => !change.ends binding.line) ++
        change.binding?.toList)) := by
  have descending := arranged_descending bindings
  cases change with
  | bind line payload priority =>
    simp only [Change.ends, filter_elsewhere]
    rw [Table.change, Change.binding?]
    by_cases small : line < lineCount
    · rw [if_pos small, if_pos small, Option.toList_some]
      have inserted := (lists.insert_binding descending distinct.arranged inRange.arranged
        ⟨line, priority &&& priorityMask, payload⟩ small).1
      rw [arranged_filter distinct.nodup] at inserted
      rw [arranged_concat]
      · exact inserted
      · rw [← List.concat_eq_append]
        refine List.Nodup.concat (fun member => ?_) (distinct.nodup.filter _)
        exact absurd (List.mem_filter.mp member).2 (by simp)
    · rw [if_neg small, if_neg small, Option.toList_none, List.append_nil,
        List.filter_eq_self.mpr fun binding member => ?_]
      · exact lists
      · have inside := inRange binding member
        exact bne_iff_ne.mpr (by omega)
  | release line =>
    have removed := (lists.remove_line descending distinct.arranged inRange.arranged line).1
    rw [arranged_filter distinct.nodup] at removed
    simp only [Change.ends, filter_elsewhere]
    rw [Change.binding?, Option.toList_none, List.append_nil]
    exact removed
  | clear =>
    have none_left : (bindings.filter fun binding =>
        !(Change.clear : Change α).ends binding.line) = [] :=
      List.filter_eq_nil_iff.mpr fun binding _ => by simp [Change.ends]
    rw [none_left, change_clear, Change.binding?, Option.toList_none, List.append_nil,
      arranged_nil]
    exact lists_vacant

/-- **A run of changes.** -/
theorem lists_changes (changes : List (Change α)) :
    (changes.foldl Table.change (Table.vacant : Table α)).Lists (arranged (live changes)) := by
  induction changes using List.reverseRecOn with
  | nil =>
    rw [live, arranged_nil]
    exact lists_vacant
  | append_singleton changes change ih =>
    rw [List.foldl_concat, live_concat]
    exact lists_change ih (live_distinct changes) (live_inRange changes) change

end Table

end VectoredInterrupts
