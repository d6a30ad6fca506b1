/-
**Moving entries in place.**

A table has no room besides its 32 places: an entry that moves over is copied to the place next to
it, which has been copied on before or belongs to the line that the operation is about. A caller
that follows the writes sees every table on the way, and no other line is missing from any of them.

* `Table.moveWrites_step`: a move starts with a copy of the next place on the way, and goes on from
  there in the table as it stands by then, so that no write relies on what has been overwritten;
* `Table.eraseIdx_moveWrites`: the invariant. Some place can be given up at any time, the one
  written last: what is listed without it is what was listed at first without the place of the line;
* `Table.bystanders_kept`: after every single write of an operation the entries of all other lines
  are there, and in order.
-/

import VectoredInterrupts.Proofs.Table.Reports

namespace VectoredInterrupts

/-- Two places are next to each other. -/
def Beside (first second : Nat) : Prop := second = first + 1 ∨ first = second + 1

/-- The place next to `source` on the way to `target`. -/
def towards (source target : Nat) : Nat := if target < source then source - 1 else source + 1

theorem Beside.ne {first second : Nat} (beside : Beside first second) : first ≠ second := by
  unfold Beside at beside
  omega

theorem beside_towards (source target : Nat) : Beside source (towards source target) := by
  unfold Beside towards
  split <;> omega

theorem towards_lt {source target size : Nat} (apart : source ≠ target) (source_lt : source < size)
    (target_lt : target < size) : towards source target < size := by
  unfold towards
  split <;> omega

/-- Of two neighbours that are the same, either can be taken out. -/
theorem eraseIdx_succ {β : Type} {list : List β} {index : Nat}
    (same : list[index]? = list[index + 1]?) : list.eraseIdx (index + 1) = list.eraseIdx index := by
  refine List.ext_getElem? fun other => ?_
  rw [List.getElem?_eraseIdx, List.getElem?_eraseIdx]
  by_cases here : other = index
  · subst here
    rw [if_pos (Nat.lt_succ_self _), if_neg (Nat.lt_irrefl _), same]
  · by_cases below : other < index
    · rw [if_pos (by omega), if_pos below]
    · rw [if_neg (by omega), if_neg below]

namespace Table

variable {α : Type} [Inhabited α]

/-- A table has an entry at one place or at one and the next, and its line nowhere else. -/
def Retains (table : Table α) (entry : Entry α) : Prop :=
  ∃ first, table.get first = entry ∧ ∀ index, (table.get index).line = entry.line →
    table.get index = entry ∧ (index = first ∨ index = first + 1)

/-- Where a table stands in the middle of an operation on a line. -/
structure Midway (before now : Table α) (line : Nat) : Prop where
  /-- The entries of the other lines are all there, as they were. -/
  kept : ∀ entry ∈ before.toList, ∀ other, entry.line = some other → other ≠ line →
    now.Retains entry
  /-- Occupied entries come first, and their priorities never rise. -/
  ordered : now.toList.Pairwise fun earlier later => later.line.isSome →
    earlier.line.isSome ∧ rank later.priority ≤ rank earlier.priority

/-- The writes of an operation on a line move entries over in place and put one in the end, and no
other line is lost on the way. -/
structure MovesInPlace (table : Table α) (line : Nat) (entry : Entry α)
    (writes : List (Write α)) : Prop where
  /-- A write copies what the place written next, which is beside, holds at that moment. -/
  copies : ∀ done write next later, writes = done ++ write :: next :: later →
    Beside write.index next.index ∧ write.entry = (table.apply done).get next.index
  /-- The last one puts the entry in its place. -/
  puts : ∀ done write, writes = done ++ [write] → write.entry = entry
  midway : ∀ done write later, writes = done ++ write :: later →
    table.Midway (table.apply (done ++ [write])) line

/-! ### One step of a move -/

/-- Going down the places, each of them takes over what stands before it. -/
theorem shifts_down (table : Table α) (target distance : Nat) :
    table.shifts (target + distance) target =
      (List.range' (target + 1) distance).reverse.map fun index =>
        ⟨index, table.get (index - 1)⟩ := by
  unfold shifts
  by_cases down : target < target + distance
  · rw [if_pos down, Nat.add_sub_cancel_left]
  · obtain rfl : distance = 0 := by omega
    rw [if_neg down, Nat.add_zero, Nat.sub_self]
    rfl

/-- Going up the places, each of them takes over what stands behind it. -/
theorem shifts_up (table : Table α) (source distance : Nat) :
    table.shifts source (source + distance) =
      (List.range' source distance).map fun index => ⟨index, table.get (index + 1)⟩ := by
  rw [shifts, if_neg (by omega), Nat.add_sub_cancel_left]

/-- What is shifted later on does not come from the place that is written first. -/
theorem shifts_step (table : Table α) {source target : Nat} (apart : source ≠ target) :
    table.shifts source target =
      ⟨source, table.get (towards source target)⟩ ::
        (table.write ⟨source, table.get (towards source target)⟩).shifts (towards source target)
          target := by
  unfold towards
  by_cases down : target < source
  · obtain ⟨distance, rfl⟩ := Nat.exists_eq_add_of_lt down
    rw [if_pos down, Nat.add_sub_cancel, Nat.add_assoc, shifts_down, shifts_down,
      List.range'_1_concat, List.reverse_append, List.reverse_singleton, List.singleton_append,
      List.map_cons, Nat.add_right_comm target 1 distance, Nat.add_sub_cancel]
    refine congrArg _ (List.map_congr_left fun index member => ?_)
    have bound := List.mem_range'_1.mp (List.mem_reverse.mp member)
    rw [get_write_of_ne (by simp only; omega)]
  · obtain ⟨distance, rfl⟩ := Nat.exists_eq_add_of_lt (show source < target by omega)
    rw [if_neg down, Nat.add_assoc, shifts_up, Nat.add_comm distance 1, ← Nat.add_assoc, shifts_up,
      Nat.add_comm 1 distance, List.range'_succ, List.map_cons]
    refine congrArg _ (List.map_congr_left fun index member => ?_)
    have bound := List.mem_range'_1.mp member
    rw [get_write_of_ne (by simp only; omega)]

theorem moveWrites_self (table : Table α) (place : Nat) (entry : Entry α) :
    table.moveWrites place place entry = [⟨place, entry⟩] :=
  congrArg (· ++ _) (table.shifts_up place 0)

/-- **One step of a move** copies what the next place on the way holds. From there the move goes on
in the table as it stands by then. -/
theorem moveWrites_step (table : Table α) {source target : Nat} (apart : source ≠ target)
    (entry : Entry α) :
    table.moveWrites source target entry =
      ⟨source, table.get (towards source target)⟩ ::
        (table.write ⟨source, table.get (towards source target)⟩).moveWrites
          (towards source target) target entry := by
  rw [moveWrites, shifts_step table apart, List.cons_append]
  rfl

/-- A move starts at its source. -/
theorem index_of_moveWrites_eq_cons {table : Table α} {source target : Nat} {entry : Entry α}
    {write : Write α} {later : List (Write α)}
    (writes : table.moveWrites source target entry = write :: later) : write.index = source := by
  by_cases apart : source = target
  · subst apart
    rw [moveWrites_self] at writes
    rw [← (List.cons.inj writes).1]
  · rw [moveWrites_step table apart] at writes
    rw [← (List.cons.inj writes).1]

/-- **Induction along a move**, on the places that are left. -/
theorem moveWrites_induction {target : Nat} {entry : Entry α}
    {motive : Table α → Nat → List (Write α) → Prop}
    (stop : ∀ table, motive table target [⟨target, entry⟩])
    (step : ∀ table source, source ≠ target →
      let copy : Write α := ⟨source, table.get (towards source target)⟩
      let rest := (table.write copy).moveWrites (towards source target) target entry
      motive (table.write copy) (towards source target) rest → motive table source (copy :: rest))
    (table : Table α) (source : Nat) :
    motive table source (table.moveWrites source target entry) := by
  induction distance : (source - target) + (target - source) generalizing table source with
  | zero =>
    obtain rfl : source = target := by omega
    rw [moveWrites_self]
    exact stop table
  | succ distance ih =>
    have apart : source ≠ target := by omega
    rw [moveWrites_step table apart]
    refine step table source apart (ih _ _ ?_)
    unfold towards
    split <;> omega

/-- Every write of a move but the last copies what the place written next holds by then. -/
theorem copies_moveWrites (table : Table α) (source target : Nat) (entry : Entry α) :
    ∀ done write next later,
      table.moveWrites source target entry = done ++ write :: next :: later →
      Beside write.index next.index ∧ write.entry = (table.apply done).get next.index := by
  induction table, source using moveWrites_induction with
  | stop table =>
    intro done write next later writes
    rcases List.singleton_eq_append_iff.mp writes with ⟨-, two⟩ | ⟨-, two⟩ <;> cases two
  | step table source apart copy rest ih =>
    intro done write next later writes
    rcases List.cons_eq_append_iff.mp writes with ⟨rfl, first⟩ | ⟨done, rfl, further⟩
    · obtain ⟨rfl, further⟩ := List.cons.inj first
      rw [index_of_moveWrites_eq_cons further.symm]
      exact ⟨beside_towards source target, rfl⟩
    · rw [apply_cons]
      exact ih done write next later further

/-! ### The place that can be given up -/

omit [Inhabited α] in
theorem eraseIdx_write (table : Table α) (hole : Nat) (entry : Entry α) :
    (table.write ⟨hole, entry⟩).toList.eraseIdx hole = table.toList.eraseIdx hole := by
  unfold toList write
  rw [Vector.toList_setIfInBounds, List.eraseIdx_set_eq]

/-- Once a place has been copied to the one beside, it can be given up instead. -/
theorem eraseIdx_copied (table : Table α) {hole next : Nat} (beside : Beside hole next)
    (hole_lt : hole < 32) (next_lt : next < 32) :
    (table.write ⟨hole, table.get next⟩).toList.eraseIdx next = table.toList.eraseIdx hole := by
  have same : (table.write ⟨hole, table.get next⟩).toList[hole]? =
      (table.write ⟨hole, table.get next⟩).toList[next]? := by
    rw [getElem?_toList _ hole_lt, getElem?_toList _ next_lt, get_write _ _ hole_lt, if_pos rfl,
      get_write_of_ne beside.ne]
  rw [← eraseIdx_write table hole (table.get next)]
  rcases beside with rfl | rfl
  · exact eraseIdx_succ same
  · exact (eraseIdx_succ same.symm).symm

/-- **What a move keeps.** After every single write, what the table lists without the place written
is what it listed at first without the source. -/
theorem eraseIdx_moveWrites (table : Table α) {source target : Nat} (source_lt : source < 32)
    (target_lt : target < 32) (entry : Entry α) :
    ∀ done write later, table.moveWrites source target entry = done ++ write :: later →
      (table.apply (done ++ [write])).toList.eraseIdx write.index =
        table.toList.eraseIdx source := by
  induction table, source using moveWrites_induction with
  | stop table =>
    intro done write later writes
    rcases List.singleton_eq_append_iff.mp writes with ⟨rfl, last⟩ | ⟨-, none_left⟩
    · obtain ⟨rfl, -⟩ := List.cons.inj last
      exact eraseIdx_write table target entry
    · cases none_left
  | step table source apart copy rest ih =>
    intro done write later writes
    rcases List.cons_eq_append_iff.mp writes with ⟨rfl, first⟩ | ⟨done, rfl, further⟩
    · obtain ⟨rfl, -⟩ := List.cons.inj first
      exact eraseIdx_write table source _
    · -- the hole is at the next place by now
      rw [List.cons_append, apply_cons]
      exact (ih (towards_lt apart source_lt target_lt) done write later further).trans
        (eraseIdx_copied table (beside_towards source target) source_lt
          (towards_lt apart source_lt target_lt))

/-! ### Tables in order but for one place -/

/-- A relation that holds throughout the list without one place holds between any two others. -/
theorem rel_get_of_eraseIdx {R : Entry α → Entry α → Prop} {table : Table α} {hole : Nat}
    (pairs : (table.toList.eraseIdx hole).Pairwise R) {earlier later : Nat}
    (before : earlier < later) (inside : later < 32) (left : earlier ≠ hole)
    (right : later ≠ hole) : R (table.get earlier) (table.get later) := by
  -- where a place is once the hole is closed
  have closed : ∀ place < 32, place ≠ hole →
      (table.toList.eraseIdx hole)[if place < hole then place else place - 1]? =
        some (table.get place) := by
    intro place inside apart
    rw [List.getElem?_eraseIdx, ← getElem?_toList table inside]
    by_cases below : place < hole
    · rw [if_pos below, if_pos below]
    · rw [if_neg below, if_neg (by omega), Nat.sub_add_cancel (by omega)]
  obtain ⟨left_lt, first⟩ := List.getElem?_eq_some_iff.mp
    (closed earlier (before.trans inside) left)
  obtain ⟨right_lt, second⟩ := List.getElem?_eq_some_iff.mp (closed later inside right)
  rw [← first, ← second]
  refine List.pairwise_iff_getElem.mp pairs _ _ left_lt right_lt ?_
  split <;> split <;> omega

/-- If the hole holds a copy of the place beside, the relation holds throughout the table. -/
theorem pairwise_of_copy {R : Entry α → Entry α → Prop} (refl : ∀ entry, R entry entry)
    {table : Table α} {hole next : Nat} (pairs : (table.toList.eraseIdx hole).Pairwise R)
    (next_lt : next < 32) (beside : Beside hole next) (same : table.get hole = table.get next) :
    table.toList.Pairwise R := by
  refine pairwise_toList_iff.mpr fun earlier later before inside => ?_
  unfold Beside at beside
  by_cases left : earlier = hole
  · subst left
    rw [same]
    by_cases right : later = next
    · rw [right]
      exact refl _
    · exact rel_get_of_eraseIdx pairs (by omega) inside (by omega) (by omega)
  · by_cases right : later = hole
    · subst right
      rw [same]
      by_cases here : earlier = next
      · rw [here]
        exact refl _
      · exact rel_get_of_eraseIdx pairs (by omega) next_lt left (by omega)
    · exact rel_get_of_eraseIdx pairs before inside left right

/-- Outside the hole a line is bound once. -/
theorem eq_of_line_get {table : Table α} {hole : Nat}
    (inOrder : (table.toList.eraseIdx hole).Pairwise InOrder) {first second line : Nat}
    (first_off : first ≠ hole) (second_off : second ≠ hole)
    (left : (table.get first).line = some line) (right : (table.get second).line = some line) :
    first = second := by
  rcases Nat.lt_trichotomy first second with before | same | behind
  · have pair := rel_get_of_eraseIdx inOrder before (lt_of_line_get right) first_off second_off
    exact absurd (left.trans right.symm) (pair (by rw [right]; rfl)).2.1
  · exact same
  · have pair := rel_get_of_eraseIdx inOrder behind (lt_of_line_get left) second_off first_off
    exact absurd (right.trans left.symm) (pair (by rw [left]; rfl)).2.1

/-- What stood anywhere but at the source is still there. -/
theorem exists_get_of_eraseIdx {before now : Table α} {source hole : Nat}
    (others : now.toList.eraseIdx hole = before.toList.eraseIdx source) {entry : Entry α}
    (member : entry ∈ before.toList) (spared : entry ≠ before.get source) :
    ∃ place ≠ hole, now.get place = entry := by
  obtain ⟨old, old_lt, rfl⟩ := mem_toList_iff_get.mp member
  have listed : before.get old ∈ now.toList.eraseIdx hole := by
    rw [others, List.mem_eraseIdx_iff_getElem?]
    exact ⟨old, fun same => spared (congrArg before.get same), getElem?_toList before old_lt⟩
  obtain ⟨place, off, there⟩ := List.mem_eraseIdx_iff_getElem?.mp listed
  refine ⟨place, off, ?_⟩
  rw [get_eq, there]
  rfl

/-- An entry outside the hole is retained if the hole binds its line as a copy only. -/
theorem retains_get {table : Table α} {hole place line : Nat}
    (inOrder : (table.toList.eraseIdx hole).Pairwise InOrder) (off : place ≠ hole)
    (bound : (table.get place).line = some line)
    (copy : (table.get hole).line = some line →
      ∃ next, Beside hole next ∧ table.get hole = table.get next) :
    table.Retains (table.get place) := by
  unfold Retains
  rw [bound]
  by_cases doubled : (table.get hole).line = some line
  · -- the line is bound at the hole and at the place beside, whichever comes first
    obtain ⟨next, beside, same⟩ := copy doubled
    obtain rfl : next = place :=
      eq_of_line_get inOrder beside.ne.symm off (same ▸ doubled) bound
    unfold Beside at beside
    have least : table.get (min hole next) = table.get next := by
      rcases Nat.le_total hole next with below | above
      · rw [Nat.min_eq_left below, same]
      · rw [Nat.min_eq_right above]
    refine ⟨min hole next, least, fun index again => ?_⟩
    by_cases here : index = hole
    · subst here
      exact ⟨same, by omega⟩
    · obtain rfl := eq_of_line_get inOrder here off again bound
      exact ⟨rfl, by omega⟩
  · refine ⟨place, rfl, fun index again => ?_⟩
    have index_off : index ≠ hole := by
      rintro rfl
      exact doubled again
    obtain rfl := eq_of_line_get inOrder index_off off again bound
    exact ⟨rfl, .inl rfl⟩

/-! ### Moves in place -/

/-- **A table midway.** The place written last holds a copy of its neighbour, or else what the line
itself ends up with. -/
theorem midway_of_eraseIdx {before now : Table α} {line source hole : Nat}
    (inOrder : before.toList.Pairwise InOrder)
    (given_up : ∀ other, (before.get source).line = some other → other = line)
    (others : now.toList.eraseIdx hole = before.toList.eraseIdx source)
    (content : (∃ next < 32, Beside hole next ∧ now.get hole = now.get next) ∨
      now.toList.Pairwise InOrder ∧ ∀ other, (now.get hole).line = some other → other = line) :
    before.Midway now line := by
  have rest : (now.toList.eraseIdx hole).Pairwise InOrder :=
    others ▸ List.Pairwise.eraseIdx _ inOrder
  have weaken : ∀ {earlier later : Entry α}, InOrder earlier later → later.line.isSome →
      earlier.line.isSome ∧ rank later.priority ≤ rank earlier.priority :=
    fun pair occupied => ⟨(pair occupied).1, (pair occupied).2.2⟩
  refine ⟨fun entry member other bound apart => ?_, ?_⟩
  · obtain ⟨place, off, rfl⟩ := exists_get_of_eraseIdx others member fun same =>
      apart (given_up other (same ▸ bound))
    refine retains_get rest off bound fun doubled => ?_
    obtain ⟨next, -, copy⟩ := content.resolve_right fun own => apart (own.2 other doubled)
    exact ⟨next, copy⟩
  · rcases content with ⟨next, next_lt, beside, same⟩ | ⟨settled, -⟩
    · exact pairwise_of_copy (fun _ occupied => ⟨occupied, Nat.le_refl _⟩) (rest.imp weaken)
        next_lt beside same
    · exact settled.imp weaken

/-- **A move** from the place of a line, or from a vacant one, spares the other lines. -/
theorem movesInPlace_moveWrites (table : Table α) {line source target : Nat} {entry : Entry α}
    (source_lt : source < 32) (target_lt : target < 32) (inOrder : table.toList.Pairwise InOrder)
    (given_up : ∀ other, (table.get source).line = some other → other = line)
    (own : ∀ other, entry.line = some other → other = line)
    (outcome : (table.apply (table.moveWrites source target entry)).toList.Pairwise InOrder) :
    table.MovesInPlace line entry (table.moveWrites source target entry) := by
  have puts : ∀ done write, table.moveWrites source target entry = done ++ [write] →
      write.entry = entry := by
    intro done write writes
    obtain ⟨-, last⟩ := List.append_inj' writes rfl
    rw [← (List.cons.inj last).1]
  refine ⟨table.copies_moveWrites source target entry, puts, fun done write later writes => ?_⟩
  have inside : ∀ change ∈ done ++ write :: later, change.index < 32 := fun change member =>
    index_lt_of_mem_moveWrites source_lt target_lt (writes ▸ member)
  have written : (table.apply (done ++ [write])).get write.index = write.entry := by
    rw [apply_append]
    exact (get_write _ _ (inside write (by simp)) _).trans (if_pos rfl)
  refine midway_of_eraseIdx inOrder given_up
    (table.eraseIdx_moveWrites source_lt target_lt entry done write later writes) ?_
  rw [written]
  cases later with
  | nil =>
    -- all writes are made, and the table is the outcome
    rw [writes] at outcome
    exact .inr ⟨outcome, puts done write writes ▸ own⟩
  | cons next later =>
    obtain ⟨beside, copied⟩ :=
      table.copies_moveWrites source target entry done write next later writes
    refine .inl ⟨next.index, inside next (by simp), beside, ?_⟩
    rw [copied, apply_append]
    exact (get_write_of_ne beside.ne).symm

namespace Regular

variable {table : Table α}

theorem inOrder (regular : table.Regular) : table.toList.Pairwise InOrder := by
  obtain ⟨bindings, lists, descending, distinct, -⟩ := regular
  exact lists.inOrder descending distinct

theorem sound (regular : table.Regular) : table.Sound := by
  obtain ⟨bindings, lists, descending, distinct, -⟩ := regular
  exact ⟨bindings, lists, descending, distinct⟩

/-- The place that an insertion takes over is vacant, or the line's own. -/
theorem line_get_vacated (regular : table.Regular) {line other : Nat} (small : line < lineCount)
    (bound : (table.get (table.vacated (some line))).line = some other) : other = line := by
  obtain ⟨bindings, lists, -, distinct, inRange⟩ := regular
  rw [lists.vacated_eq distinct inRange small] at bound
  cases found : table.position line with
  | none =>
    rw [found, Option.getD_none, lists.occupied, lists.get, List.getElem?_eq_none (Nat.le_refl _)]
      at bound
    cases bound
  | some place =>
    rw [found, Option.getD_some, line_get_of_position found] at bound
    exact (Option.some.inj bound).symm

theorem movesInPlace_insert (regular : table.Regular) {new : Binding α}
    (small : new.line < lineCount) :
    table.MovesInPlace new.line new.entry (table.insert new.entry).writes := by
  have proper : (TableOp.insert new.entry).Proper := ⟨⟨new.line, small, rfl⟩, rfl⟩
  have outcome := (regular.after proper).inOrder
  have ⟨_, lists, descending, _⟩ := regular
  exact table.movesInPlace_moveWrites (lists.vacated_le new.line).2
    (lists.destination_lt descending new) regular.inOrder
    (fun _ bound => regular.line_get_vacated small bound)
    (fun _ bound => (Option.some.inj bound).symm) outcome

theorem movesInPlace_remove (regular : table.Regular) (line : Nat) :
    table.MovesInPlace line Entry.vacant (table.remove line).writes := by
  have proper : (TableOp.remove line : TableOp α).Proper := trivial
  have outcome := (regular.after proper).inOrder
  cases found : table.position line with
  | none =>
    rw [Table.remove, found]
    exact ⟨by simp, by simp, by simp⟩
  | some place =>
    rw [Table.after, remove_of_position found] at outcome
    rw [remove_of_position found]
    refine table.movesInPlace_moveWrites (position_lt found) (by decide) regular.inOrder
      (fun other bound => ?_) (fun other bound => by cases bound) outcome
    rw [line_get_of_position found] at bound
    exact (Option.some.inj bound).symm

/-- A line is gone once it has been removed. -/
theorem line_ne_of_mem_remove (regular : table.Regular) {line : Nat} {entry : Entry α}
    (member : entry ∈ (table.after (.remove line)).toList) : entry.line ≠ some line := by
  intro bound
  cases found : table.position line with
  | none =>
    rw [Table.after, regular.sound.robust.absent line found] at member
    exact beq_eq_false_iff_ne.mp (List.findIdx?_eq_none_iff.mp found entry member) bound
  | some place =>
    have removed := (regular.sound.robust.remove line place found).2 entry (by rw [bound]; rfl)
    exact (removed.mp member).2 bound

end Regular

/-- **No bystander is lost.** Whatever lines that exist were bound, released and cleared before: the
writes that bind or release a line are moves in place. After each of them every other line has its
entry at one place, or at two next to each other, and the table is in order. In the end the entry is
there that is inserted, or the line is gone that is removed. -/
theorem bystanders_kept (ops : List (TableOp α)) (proper : ∀ op ∈ ops, op.Proper) :
    let table := ops.foldl Table.after (Table.vacant : Table α)
    (∀ entry line, entry.line = some line → line < lineCount → entry.priority.isSome →
      table.MovesInPlace line entry (table.insert entry).writes ∧
        entry ∈ (table.after (.insert entry)).toList) ∧
      ∀ line, table.MovesInPlace line Entry.vacant (table.remove line).writes ∧
        ∀ entry ∈ (table.after (.remove line)).toList, entry.line ≠ some line := by
  intro table
  have regular : table.Regular := Regular.foldl_after proper
  refine ⟨fun entry line bound small ranked => ?_, fun line =>
    ⟨regular.movesInPlace_remove line, fun entry member => regular.line_ne_of_mem_remove member⟩⟩
  obtain ⟨priority, ranked⟩ := Option.isSome_iff_exists.mp ranked
  obtain ⟨place, place_lt, -, there, -⟩ :=
    regular.sound.robust.insert entry line priority bound ranked
  obtain ⟨new, rfl, rfl⟩ := Entry.exists_binding bound ranked
  exact ⟨regular.movesInPlace_insert small, mem_toList_iff_get.mpr ⟨place, place_lt, there⟩⟩

/-- Line 7 overtakes lines 4 and 3. At first line 3 is copied to its place, and stands at two. -/
theorem bystanders_kept_overtaken :
    let ops : List (TableOp Nat) := [.insert (.binding 3 5 0), .insert (.binding 4 9 1),
      .insert (.binding 7 1 2)]
    let table := ops.foldl Table.after (Table.vacant : Table Nat)
    let writes := (table.insert (.binding 7 20 2)).writes
    (∀ op ∈ ops, op.Proper) ∧ table.MovesInPlace 7 (.binding 7 20 2) writes ∧
      writes = [⟨2, .binding 3 5 0⟩, ⟨1, .binding 4 9 1⟩, ⟨0, .binding 7 20 2⟩] ∧
      table.Midway (table.apply [⟨2, .binding 3 5 0⟩]) 7 ∧
      table.MovesInPlace 4 Entry.vacant (table.remove 4).writes := by
  intro ops table writes
  have proper : ∀ op ∈ ops, op.Proper := by
    simp [ops, TableOp.Proper, Entry.binding, lineCount]
  obtain ⟨inserts, removes⟩ := bystanders_kept ops proper
  have moves := (inserts (.binding 7 20 2) 7 rfl (by decide) rfl).1
  have sequence : writes = [⟨2, .binding 3 5 0⟩, ⟨1, .binding 4 9 1⟩, ⟨0, .binding 7 20 2⟩] := by
    decide
  exact ⟨proper, moves, sequence, moves.midway [] _ _ sequence, (removes 4).1⟩

end Table

end VectoredInterrupts
