/-
**The density check.**

The check passes over the entries once, with the set of lines met so far, the last priority and
whether a vacant entry has been met (`Table.Scan`). It decides a condition on pairs of entries:

* `Table.checkFrom_eq_ok`: the check of the entries that are left comes out true exactly when every
  pair of them is in order and each of them fits what has been passed. It never stops at a shift;
* `Table.Lists.checkDense_eq`: of a table in order it only asks whether every line exists;
* `Table.Lists.ifDense`: a table that lists distinct lines in range, by descending urgency, passes;
* `Table.checkDense_decides`: the check decides whether a table is `Table.Dense`, which is said place
  by place.
-/

import VectoredInterrupts.Proofs.Table.Bindings

namespace VectoredInterrupts

/-! ### Bits of a set of lines -/

theorem LineSet.single_eq {line : Nat} (small : line < 32) :
    LineSet.single line = .ok (BitVec.twoPow 32 line) :=
  (if_pos small).trans (congrArg Except.ok (BitVec.twoPow_eq 32 line).symm)

theorem LineSet.and_bit_ne_zero (lines : LineSet) {line : Nat} (small : line < 32) :
    lines &&& BitVec.twoPow 32 line ≠ 0 ↔ lines.getLsbD line = true := by
  rw [BitVec.and_twoPow]
  by_cases member : lines.getLsbD line = true
  · rw [if_pos member]
    refine iff_of_true (fun zero => ?_) member
    have bit := congrArg (fun set : LineSet => set.getLsbD line) zero
    simp only [BitVec.getLsbD_twoPow, small, decide_true, Bool.and_true] at bit
    exact absurd bit (by simp)
  · rw [if_neg member]
    exact iff_of_false (fun different => different rfl) member

theorem LineSet.getLsbD_or_bit (lines : LineSet) {line : Nat} (small : line < 32) (other : Nat) :
    (lines ||| BitVec.twoPow 32 line).getLsbD other = false ↔
      lines.getLsbD other = false ∧ other ≠ line := by
  rw [BitVec.getLsbD_or, BitVec.getLsbD_twoPow, Bool.or_eq_false_iff, decide_eq_true small,
    Bool.true_and, decide_eq_false_iff_not]
  exact and_congr_right fun _ => not_congr eq_comm

namespace Table

variable {α : Type}

/-! ### What the check decides -/

/-- An entry may stand before another one: if the later one binds a line, so does the earlier one,
a different line at no lower priority. -/
def InOrder (earlier later : Entry α) : Prop :=
  later.line.isSome →
    earlier.line.isSome ∧ earlier.line ≠ later.line ∧ rank later.priority ≤ rank earlier.priority

/-- An entry may follow what a check has passed. -/
def Fits (scan : Scan) (entry : Entry α) : Prop :=
  ∀ line, entry.line = some line →
    scan.vacancy = false ∧ line < 32 ∧ scan.seen.getLsbD line = false ∧
      (scan.previous.isSome → rank entry.priority ≤ rank scan.previous)

/-- What the check remembers once it has passed an occupied entry. -/
def Scan.pass (scan : Scan) (line : Nat) (priority : Option Byte) : Scan :=
  { scan with seen := scan.seen ||| BitVec.twoPow 32 line, previous := priority }

/-- At the start of a check an entry fits if its line exists. -/
theorem fits_start {entry : Entry α} :
    Fits {} entry ↔ ∀ line, entry.line = some line → line < lineCount := by
  refine forall₂_congr fun line _ => ⟨fun fits => fits.2.1, fun small => ?_⟩
  exact ⟨rfl, small, BitVec.getLsbD_zero, fun known => by cases known⟩

theorem fits_vacancy (scan : Scan) (entry : Entry α) :
    Fits { scan with vacancy := true } entry ↔ entry.line = none := by
  constructor
  · intro fits
    cases occupied : entry.line with
    | none => rfl
    | some line => exact absurd (fits line occupied).1 (by simp)
  · intro free line bound
    rw [free] at bound
    cases bound

/-- An entry fits after an occupied one that fits exactly if it fitted before and the two are in
order. -/
theorem fits_pass (scan : Scan) {head : Entry α} {line : Nat} (bound : head.line = some line)
    (ranked : head.priority.isSome) (fits : Fits scan head) (entry : Entry α) :
    Fits (scan.pass line head.priority) entry ↔ Fits scan entry ∧ InOrder head entry := by
  obtain ⟨noGap, small, -, rises⟩ := fits line bound
  constructor
  · intro later
    refine ⟨fun other occupied => ?_, fun occupied => ?_⟩
    · obtain ⟨-, inside, unseen, below⟩ := later other occupied
      have fresh := ((LineSet.getLsbD_or_bit _ small other).mp unseen).1
      exact ⟨noGap, inside, fresh, fun known => (below ranked).trans (rises known)⟩
    · obtain ⟨other, occupied⟩ := Option.isSome_iff_exists.mp occupied
      obtain ⟨-, -, unseen, below⟩ := later other occupied
      refine ⟨by rw [bound]; rfl, fun same => ?_, below ranked⟩
      rw [bound, occupied] at same
      exact ((LineSet.getLsbD_or_bit _ small other).mp unseen).2 (Option.some.inj same).symm
  · rintro ⟨before, inOrder⟩ other occupied
    obtain ⟨-, inside, unseen, -⟩ := before other occupied
    obtain ⟨-, different, below⟩ := inOrder (by rw [occupied]; rfl)
    refine ⟨noGap, inside, (LineSet.getLsbD_or_bit _ small other).mpr ⟨unseen, fun same => ?_⟩,
      fun _ => below⟩
    exact different (by rw [bound, occupied, same])

/-- An occupied entry that fits lets the check go on, any other one ends it. -/
theorem checkFrom_occupied (head : Entry α) (rest : List (Entry α)) (scan : Scan) {line : Nat}
    (bound : head.line = some line) :
    (Fits scan head →
        checkFrom (head :: rest) scan = checkFrom rest (scan.pass line head.priority)) ∧
      (¬ Fits scan head → checkFrom (head :: rest) scan = .ok false) := by
  have unfolded : Fits scan head ↔ scan.vacancy = false ∧ line < 32 ∧
      scan.seen.getLsbD line = false ∧
      (scan.previous.isSome → rank head.priority ≤ rank scan.previous) := by
    refine ⟨fun fits => fits line bound, fun all other same => ?_⟩
    rw [bound] at same
    cases same
    exact all
  rw [unfolded, checkFrom, bound]
  simp only [Bool.or_eq_true, decide_eq_true_eq]
  by_cases early : scan.vacancy = true ∨ 32 ≤ line
  · rw [if_pos early]
    refine ⟨fun fits => ?_, fun _ => rfl⟩
    rcases early with gap | large
    · exact absurd (gap.symm.trans fits.1) (by simp)
    · exact absurd fits.2.1 (by omega)
  · have small : line < 32 := by omega
    have noGap : scan.vacancy = false := by simpa using fun gap => early (.inl gap)
    rw [if_neg early, LineSet.single_eq small]
    simp only
    by_cases met : scan.seen &&& BitVec.twoPow 32 line ≠ 0
    · have seen := (LineSet.and_bit_ne_zero _ small).mp met
      rw [if_pos met]
      exact ⟨fun fits => absurd (seen.symm.trans fits.2.2.1) (by simp), fun _ => rfl⟩
    · have unseen : scan.seen.getLsbD line = false := by
        simpa using fun seen => met ((LineSet.and_bit_ne_zero _ small).mpr seen)
      rw [if_neg met]
      by_cases rises : scan.previous.isSome = true ∧ rank scan.previous < rank head.priority
      · rw [if_pos rises]
        refine ⟨fun fits => ?_, fun _ => rfl⟩
        exact absurd (fits.2.2.2 rises.1) (by omega)
      · rw [if_neg rises]
        refine ⟨fun _ => rfl, fun unfit => absurd ?_ unfit⟩
        exact ⟨noGap, small, unseen, fun known => by
          by_contra above
          exact rises ⟨known, by omega⟩⟩

/-- The check never faults, whatever the entries are. -/
theorem checkFrom_returns (entries : List (Entry α)) (scan : Scan) :
    ∃ verdict, checkFrom entries scan = .ok verdict := by
  induction entries generalizing scan with
  | nil => exact ⟨true, rfl⟩
  | cons head rest ih =>
    cases bound : head.line with
    | none =>
      rw [checkFrom, bound]
      exact ih _
    | some line =>
      obtain ⟨passes, stops⟩ := checkFrom_occupied head rest scan bound
      by_cases fits : Fits scan head
      · rw [passes fits]
        exact ih _
      · exact ⟨false, stops fits⟩

/-- **What the check decides.** Occupied entries are assumed to carry a priority. -/
theorem checkFrom_eq_ok (entries : List (Entry α)) (scan : Scan)
    (ranked : ∀ entry ∈ entries, entry.line.isSome → entry.priority.isSome) :
    ∃ verdict, checkFrom entries scan = .ok verdict ∧
      (verdict = true ↔ (∀ entry ∈ entries, Fits scan entry) ∧ entries.Pairwise InOrder) := by
  induction entries generalizing scan with
  | nil => exact ⟨true, rfl, by simp⟩
  | cons head rest ih =>
    have ranked_rest : ∀ entry ∈ rest, entry.line.isSome → entry.priority.isSome :=
      fun entry member => ranked entry (List.mem_cons_of_mem _ member)
    rw [List.forall_mem_cons, List.pairwise_cons]
    cases bound : head.line with
    | none =>
      obtain ⟨verdict, checked, decides⟩ := ih { scan with vacancy := true } ranked_rest
      refine ⟨verdict, ?_, decides.trans ?_⟩
      · rw [checkFrom, bound]
        exact checked
      · -- behind a vacant entry only vacant ones are in order
        have head_fits : Fits scan head := by
          intro line occupied
          rw [bound] at occupied
          cases occupied
        simp only [fits_vacancy]
        constructor
        · rintro ⟨free, pairs⟩
          refine ⟨⟨head_fits, fun entry member line occupied => ?_⟩,
            fun entry member occupied => ?_, pairs⟩
          · rw [free entry member] at occupied
            cases occupied
          · rw [free entry member] at occupied
            cases occupied
        · rintro ⟨-, inOrder, pairs⟩
          refine ⟨fun entry member => ?_, pairs⟩
          by_contra occupied
          have earlier := (inOrder entry member (Option.isSome_iff_ne_none.mpr occupied)).1
          rw [bound] at earlier
          cases earlier
    | some line =>
      obtain ⟨passes, stops⟩ := checkFrom_occupied head rest scan bound
      by_cases fits : Fits scan head
      · have head_ranked := ranked head List.mem_cons_self (by rw [bound]; rfl)
        obtain ⟨verdict, checked, decides⟩ := ih (scan.pass line head.priority) ranked_rest
        refine ⟨verdict, (passes fits).trans checked, decides.trans ?_⟩
        simp only [fits_pass scan bound head_ranked fits]
        constructor
        · rintro ⟨each, pairs⟩
          exact ⟨⟨fits, fun entry member => (each entry member).1⟩,
            fun entry member => (each entry member).2, pairs⟩
        · rintro ⟨⟨-, each⟩, inOrder, pairs⟩
          exact ⟨fun entry member => ⟨each entry member, inOrder entry member⟩, pairs⟩
      · exact ⟨false, stops fits, by simp [fits]⟩

/-! ### Tables that pass -/

variable [Inhabited α]

theorem Lists.ranked {table : Table α} {bindings : List (Binding α)}
    (lists : table.Lists bindings) :
    ∀ entry ∈ table.toList, entry.line.isSome → entry.priority.isSome := by
  intro entry member occupied
  rw [lists, List.mem_append, List.mem_map] at member
  rcases member with ⟨binding, -, rfl⟩ | vacant
  · rfl
  · rw [List.eq_of_mem_replicate vacant] at occupied
    cases occupied

/-- The entries of a table that lists distinct lines by descending urgency are in order. -/
theorem Lists.inOrder {table : Table α} {bindings : List (Binding α)}
    (lists : table.Lists bindings) (descending : Descending bindings)
    (distinct : Distinct bindings) : table.toList.Pairwise InOrder := by
  rw [lists, List.pairwise_append]
  refine ⟨List.pairwise_map.mpr ?_, List.pairwise_replicate.mpr (.inr fun occupied => ?_),
    fun earlier _ later vacant occupied => ?_⟩
  · refine (List.pairwise_and_iff.mpr ⟨descending, distinct⟩).imp ?_
    rintro earlier later ⟨below, apart⟩ -
    exact ⟨rfl, fun same => apart (Option.some.inj same), Nat.succ_le_succ below⟩
  · cases occupied
  · rw [List.eq_of_mem_replicate vacant] at occupied
    cases occupied

/-- **The verdict on a table in order**: the check only asks whether every line exists. -/
theorem Lists.checkDense_eq {table : Table α} {bindings : List (Binding α)}
    (lists : table.Lists bindings) (descending : Descending bindings)
    (distinct : Distinct bindings) :
    ∃ verdict, table.checkDense = .ok verdict ∧ (verdict = true ↔ InRange bindings) := by
  obtain ⟨verdict, checked, decides⟩ := checkFrom_eq_ok table.toList {} lists.ranked
  refine ⟨verdict, checked, decides.trans ⟨fun ⟨fit, _⟩ binding listed => ?_, fun inRange => ?_⟩⟩
  · have member : binding.entry ∈ table.toList := by
      rw [lists]
      exact List.mem_append_left _ (List.mem_map_of_mem listed)
    exact (fit binding.entry member binding.line rfl).2.1
  · refine ⟨fun entry member => fits_start.mpr fun line bound => ?_,
      lists.inOrder descending distinct⟩
    rw [lists, List.mem_append, List.mem_map] at member
    rcases member with ⟨binding, listed, rfl⟩ | vacant
    · obtain rfl := Option.some.inj bound
      exact inRange binding listed
    · rw [List.eq_of_mem_replicate vacant] at bound
      cases bound

theorem Lists.checkDense {table : Table α} {bindings : List (Binding α)}
    (lists : table.Lists bindings) (descending : Descending bindings)
    (distinct : Distinct bindings) (inRange : InRange bindings) :
    table.checkDense = .ok true := by
  obtain ⟨verdict, checked, decides⟩ := lists.checkDense_eq descending distinct
  rw [checked, decides.mpr inRange]

/-- The check after a change lets the answer of a table in order through. -/
theorem Lists.ifDense {ρ : Type} {table : Table α} {bindings : List (Binding α)}
    (lists : table.Lists bindings) (descending : Descending bindings)
    (distinct : Distinct bindings) (inRange : InRange bindings) (answer : ρ) :
    table.ifDense answer = .ok answer := by
  rw [Table.ifDense, lists.checkDense descending distinct inRange]

/-! ### Dense tables -/

/-- What a dense table looks like, place by place. -/
structure Dense (table : Table α) : Prop where
  /-- No vacant entry comes before an occupied one. -/
  front : ∀ earlier later, earlier < later → later < 32 →
    (table.get later).line.isSome → (table.get earlier).line.isSome
  /-- The lines bound exist. -/
  exist : ∀ place < 32, ∀ line, (table.get place).line = some line → line < lineCount
  /-- No line is bound twice. -/
  distinct : ∀ earlier later, earlier < later → later < 32 →
    ∀ line, (table.get earlier).line = some line → (table.get later).line ≠ some line
  /-- The priority of an occupied entry is at most that of the occupied entry before it. -/
  descending : ∀ place, place + 1 < 32 →
    (table.get place).line.isSome → (table.get (place + 1)).line.isSome →
    ∀ upper lower : Byte, (table.get place).priority = some upper →
      (table.get (place + 1)).priority = some lower → lower.toNat ≤ upper.toNat

theorem mem_toList_iff_get {table : Table α} {entry : Entry α} :
    entry ∈ table.toList ↔ ∃ place < 32, table.get place = entry := by
  rw [List.mem_iff_getElem?]
  constructor
  · rintro ⟨place, there⟩
    have inside := (List.getElem?_eq_some_iff.mp there).1
    rw [length_toList] at inside
    rw [getElem?_toList table inside] at there
    exact ⟨place, inside, Option.some.inj there⟩
  · rintro ⟨place, inside, rfl⟩
    exact ⟨place, getElem?_toList table inside⟩

theorem pairwise_toList_iff {table : Table α} {R : Entry α → Entry α → Prop} :
    table.toList.Pairwise R ↔
      ∀ earlier later, earlier < later → later < 32 → R (table.get earlier) (table.get later) := by
  have at_place : ∀ place (inside : place < table.toList.length),
      table.toList[place] = table.get place := by
    intro place inside
    rw [get_eq, List.getElem?_eq_getElem inside]
    rfl
  rw [List.pairwise_iff_getElem]
  constructor
  · intro pairs earlier later before inside
    have inside' : later < table.toList.length := by rwa [length_toList]
    have pair := pairs earlier later (before.trans inside') inside' before
    rwa [at_place, at_place] at pair
  · intro pairs earlier later _ inside before
    rw [at_place, at_place]
    exact pairs earlier later before (by rwa [length_toList] at inside)

/-- In a dense table the ranks fall over any distance: all entries in between are occupied. -/
theorem Dense.rank_le {table : Table α} (dense : table.Dense)
    (ranked : ∀ entry ∈ table.toList, entry.line.isSome → entry.priority.isSome)
    {earlier later : Nat} (before : earlier < later) (inside : later < 32)
    (occupied : (table.get later).line.isSome) :
    rank (table.get later).priority ≤ rank (table.get earlier).priority := by
  have next : ∀ place, place + 1 < 32 → (table.get (place + 1)).line.isSome →
      rank (table.get (place + 1)).priority ≤ rank (table.get place).priority := by
    intro place inside occupied
    have front := dense.front place (place + 1) place.lt_succ_self inside occupied
    obtain ⟨lower, low⟩ := Option.isSome_iff_exists.mp
      (ranked _ (mem_toList_iff_get.mpr ⟨place + 1, inside, rfl⟩) occupied)
    obtain ⟨upper, up⟩ := Option.isSome_iff_exists.mp
      (ranked _ (mem_toList_iff_get.mpr ⟨place, by omega, rfl⟩) front)
    rw [low, up]
    exact Nat.succ_le_succ (dense.descending place inside front occupied upper lower up low)
  induction later, before using Nat.le_induction with
  | base => exact next earlier inside occupied
  | succ later before ih =>
    have front := dense.front later (later + 1) later.lt_succ_self inside occupied
    exact (next later inside occupied).trans (ih (by omega) front)

/-- Place by place or in pairs, the condition is the same. -/
theorem dense_iff_inOrder {table : Table α}
    (ranked : ∀ entry ∈ table.toList, entry.line.isSome → entry.priority.isSome) :
    table.Dense ↔ (∀ entry ∈ table.toList, Fits {} entry) ∧ table.toList.Pairwise InOrder := by
  simp only [fits_start, pairwise_toList_iff]
  constructor
  · intro dense
    refine ⟨fun entry member => ?_, fun earlier later before inside occupied => ?_⟩
    · obtain ⟨place, inside, rfl⟩ := mem_toList_iff_get.mp member
      exact dense.exist place inside
    · have front := dense.front earlier later before inside occupied
      obtain ⟨line, bound⟩ := Option.isSome_iff_exists.mp front
      refine ⟨front, fun same => ?_, dense.rank_le ranked before inside occupied⟩
      exact dense.distinct earlier later before inside line bound (same ▸ bound)
  · rintro ⟨exist, pairs⟩
    refine ⟨fun earlier later before inside occupied =>
        (pairs earlier later before inside occupied).1,
      fun place inside => exist _ (mem_toList_iff_get.mpr ⟨place, inside, rfl⟩),
      fun earlier later before inside line bound again => ?_,
      fun place inside _ occupied upper lower up low => ?_⟩
    · have apart := (pairs earlier later before inside (by rw [again]; rfl)).2.1
      exact apart (bound.trans again.symm)
    · have below := (pairs place (place + 1) place.lt_succ_self inside occupied).2.2
      rw [up, low] at below
      exact Nat.le_of_succ_le_succ below

/-- **The density check decides density.** It comes to a verdict on every table, without a shift out
of range. If the occupied entries carry priorities, the verdict is whether the table is dense. -/
theorem checkDense_decides (table : Table α) :
    ∃ verdict, table.checkDense = .ok verdict ∧
      ((∀ entry ∈ table.toList, entry.line.isSome → entry.priority.isSome) →
        (verdict = true ↔ table.Dense)) := by
  obtain ⟨verdict, returns⟩ := checkFrom_returns table.toList {}
  refine ⟨verdict, returns, fun ranked => ?_⟩
  obtain ⟨decided, checked, decides⟩ := checkFrom_eq_ok table.toList {} ranked
  obtain rfl := Except.ok.inj (returns.symm.trans checked)
  exact decides.trans (dense_iff_inOrder ranked).symm

/-- Line 3 is bound behind a gap, and next to line 0. -/
theorem checkDense_decides_gap :
    let gapped := ((vacant : Table Nat).write ⟨0, .binding 0 10 7⟩).write ⟨2, .binding 3 5 8⟩
    let closed := ((vacant : Table Nat).write ⟨0, .binding 0 10 7⟩).write ⟨1, .binding 3 5 8⟩
    ¬ gapped.Dense ∧ closed.Dense := by
  intro gapped closed
  obtain ⟨verdict, stops, decides⟩ := gapped.checkDense_decides
  obtain ⟨verdict', passes, decides'⟩ := closed.checkDense_decides
  have found : verdict = false := Except.ok.inj (stops.symm.trans (by decide))
  have found' : verdict' = true := Except.ok.inj (passes.symm.trans (by decide))
  refine ⟨fun dense => ?_, (decides' (by decide)).mp found'⟩
  exact Bool.false_ne_true (found.symm.trans ((decides (by decide)).mpr dense))

end Table

end VectoredInterrupts
