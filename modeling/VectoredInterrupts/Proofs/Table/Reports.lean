/-
**What is written is what is reported.**

A caller that keeps a copy of a table follows the list of its writes, so the list has to be exact.
In a table of lines that exist the writes of an operation *sweep* from one place to another
(`Table.Sweeps`): each place in between is written once, one after another, with the entry that it
holds from then on.

* `Table.sweeps_moveWrites`: the writes that move an entry sweep from the source to the target,
  whichever comes first;
* `Table.Regular.after`: a table of lines that exist stays one if it is not given others;
* `Table.Regular.reported`: from where to where each operation sweeps, and the table it leaves.
-/

import VectoredInterrupts.Proofs.Table.Robustness

namespace VectoredInterrupts

/-- An entry that is inserted binds a line that exists, at some priority. -/
def TableOp.Proper {α : Type} : TableOp α → Prop
  | .insert entry => (∃ line < lineCount, entry.line = some line) ∧ entry.priority.isSome
  | .remove _ | .clear | .position _ => True

theorem InRange.eraseIdx {α : Type} {bindings : List (Binding α)} (inRange : InRange bindings)
    (index : Nat) : InRange (bindings.eraseIdx index) :=
  fun binding member => inRange binding (List.mem_of_mem_eraseIdx member)

theorem InRange.place {α : Type} {bindings : List (Binding α)} (inRange : InRange bindings)
    {new : Binding α} (small : new.line < lineCount) : InRange (place new bindings) := by
  intro binding member
  rcases mem_place.mp member with rfl | listed
  · exact small
  · exact inRange binding listed

namespace Table

variable {α : Type} [Inhabited α]

/-- The writes pass over the places from `first` to `last`. -/
structure Sweeps (table : Table α) (writes : List (Write α)) (first last : Nat) : Prop where
  /-- The places between the two are written, they themselves included, and no others are. -/
  places : ∀ index, index ∈ writes.map Write.index ↔
    min first last ≤ index ∧ index ≤ max first last
  /-- They are passed in order, none of them twice. -/
  upwards : first ≤ last → (writes.map Write.index).Pairwise fun earlier later => earlier < later
  downwards : last ≤ first → (writes.map Write.index).Pairwise fun earlier later => later < earlier
  /-- A write carries what its place holds once it is made, and still when all of them are. -/
  reports : ∀ done write later, writes = done ++ write :: later →
    (table.apply (done ++ [write])).get write.index = write.entry ∧
      (table.apply writes).get write.index = write.entry

/-- What the writes of each operation are, and what they lead to. -/
structure Reported (table : Table α) : Prop where
  /-- An insertion sweeps from the place of the line to the one that the line ends up at. A line
  that is not bound yet comes from the first vacant place. -/
  insert : ∀ entry line, entry.line = some line → line < lineCount → entry.priority.isSome →
    ∃ last, (table.insert entry).answer = .ok last ∧
      (table.after (.insert entry)).position line = some last ∧
      table.Sweeps (table.insert entry).writes ((table.position line).getD table.occupied) last ∧
      (table.after (.insert entry)).toList =
        (table.toList.eraseIdx ((table.position line).getD table.occupied)).insertIdx last entry
  /-- A removal sweeps from the place of the line to the end. -/
  remove : ∀ line place, table.position line = some place →
    (table.remove line).answer = .ok (some place) ∧
      table.Sweeps (table.remove line).writes place 31 ∧
      (table.after (.remove line)).toList = table.toList.eraseIdx place ++ [Entry.vacant]
  absent : ∀ line, table.position line = none → table.remove line = ⟨[], .ok none⟩
  clear : table.Sweeps (Table.clear : Update α Unit).writes 0 31 ∧ table.after .clear = vacant

/-! ### Lists of writes that sweep -/

omit [Inhabited α] in
theorem apply_append (table : Table α) (first second : List (Write α)) :
    table.apply (first ++ second) = (table.apply first).apply second :=
  List.foldl_append

/-- Writes to different places are all still there in the end. -/
theorem reports_of_nodup (table : Table α) {writes : List (Write α)}
    (once : (writes.map Write.index).Nodup) (inside : ∀ write ∈ writes, write.index < 32) :
    ∀ done write later, writes = done ++ write :: later →
      (table.apply (done ++ [write])).get write.index = write.entry ∧
        (table.apply writes).get write.index = write.entry := by
  rintro done write later rfl
  have there : write.index < 32 := inside write (by simp)
  have unwritten : write.index ∉ later.map Write.index := by
    rw [List.map_append, List.map_cons] at once
    exact (List.nodup_cons.mp once.of_append_right).1
  have made : (table.apply (done ++ [write])).get write.index = write.entry := by
    rw [apply_append, apply_cons]
    exact (get_write _ _ there _).trans (if_pos rfl)
  refine ⟨made, ?_⟩
  rw [← List.singleton_append, ← List.append_assoc, apply_append, get_apply_of_not_mem unwritten]
  exact made

/-- The places that a move writes, in order. -/
theorem index_moveWrites (table : Table α) (source target : Nat) (entry : Entry α) :
    (table.moveWrites source target entry).map Write.index =
      if target < source then (List.range' target (source - target + 1)).reverse
      else List.range' source (target - source + 1) := by
  unfold moveWrites shifts
  by_cases down : target < source
  · rw [if_pos down, if_pos down, List.map_append, List.map_map, List.range'_succ,
      List.reverse_cons]
    exact congrArg (· ++ [target]) (List.map_id _)
  · rw [if_neg down, if_neg down, List.map_append, List.map_map, List.range'_1_concat,
      show source + (target - source) = target by omega]
    exact congrArg (· ++ [target]) (List.map_id _)

/-- **Moving** sweeps from the source to the target. -/
theorem sweeps_moveWrites (table : Table α) {source target : Nat} (source_lt : source < 32)
    (target_lt : target < 32) (entry : Entry α) :
    table.Sweeps (table.moveWrites source target entry) source target := by
  have order := index_moveWrites table source target entry
  have upwards : source ≤ target → ((table.moveWrites source target entry).map
      Write.index).Pairwise fun earlier later => earlier < later := by
    intro up
    rw [order, if_neg (by omega)]
    exact List.pairwise_lt_range'
  have downwards : target ≤ source → ((table.moveWrites source target entry).map
      Write.index).Pairwise fun earlier later => later < earlier := by
    intro down
    rw [order]
    split
    · exact List.pairwise_reverse.mpr List.pairwise_lt_range'
    · -- source and target are the same place
      rw [show target - source + 1 = 1 by omega]
      exact List.pairwise_singleton _ _
  have once : ((table.moveWrites source target entry).map Write.index).Nodup :=
    (Nat.le_total source target).elim (fun up => (upwards up).imp Nat.ne_of_lt)
      fun down => (downwards down).imp Nat.ne_of_gt
  refine ⟨fun index => ?_, upwards, downwards, table.reports_of_nodup once fun write member =>
    index_lt_of_mem_moveWrites source_lt target_lt member⟩
  rw [mem_index_moveWrites]
  omega

/-- **Clearing** sweeps over the whole table. -/
theorem sweeps_clearWrites (table : Table α) : table.Sweeps clearWrites 0 31 := by
  have order : (clearWrites : List (Write α)).map Write.index = List.range 32 := by
    rw [clearWrites, List.map_map]
    exact List.map_id _
  refine ⟨fun index => ?_, fun _ => ?_, fun backwards => absurd backwards (by decide),
    table.reports_of_nodup ?_ fun write member => (mem_clearWrites.mp member).1⟩
  · rw [order, List.mem_range]
    omega
  · rw [order]
    exact List.pairwise_lt_range
  · rw [order]
    exact List.nodup_range

/-! ### Tables of lines that exist -/

/-- The table lists distinct lines, all of which exist, by descending urgency. -/
def Regular (table : Table α) : Prop :=
  ∃ bindings, table.Lists bindings ∧ Descending bindings ∧ Distinct bindings ∧ InRange bindings

/-- While lines exist only, there is a place to take over that no other line is bound at. -/
theorem Lists.vacated_eq {table : Table α} {bindings : List (Binding α)}
    (lists : table.Lists bindings) (distinct : Distinct bindings) (inRange : InRange bindings)
    {line : Nat} (small : line < lineCount) :
    table.vacated (some line) = (table.position line).getD table.occupied := by
  rw [lists.vacated, lists.position, lists.occupied]
  cases found : bindings.findIdx? fun binding => binding.line == line with
  | none =>
    have absent := List.findIdx?_eq_none_iff.mp found
    have room : bindings.length < 32 := distinct.length_lt inRange small fun binding member =>
      beq_eq_false_iff_ne.mp (absent binding member)
    rw [List.findIdx?_eq_none_iff_findIdx_eq.mp found]
    exact Nat.min_eq_left (by omega)
  | some place =>
    obtain ⟨inside, first⟩ := List.findIdx?_eq_some_iff_findIdx_eq.mp found
    have room := lists.length_le
    rw [first]
    exact Nat.min_eq_left (by omega)

namespace Regular

variable {table : Table α}

theorem vacant : (Table.vacant : Table α).Regular :=
  ⟨[], lists_vacant, .nil, .nil, fun _ member => by cases member⟩

/-- **One operation**, with lines that exist. -/
theorem after (regular : table.Regular) {op : TableOp α} (proper : op.Proper) :
    (table.after op).Regular := by
  obtain ⟨bindings, lists, descending, distinct, inRange⟩ := regular
  cases op with
  | insert entry =>
    obtain ⟨⟨line, small, bound⟩, ranked⟩ := proper
    obtain ⟨priority, ranked⟩ := Option.isSome_iff_exists.mp ranked
    obtain ⟨new, rfl, rfl⟩ := Entry.exists_binding bound ranked
    exact ⟨_, lists_after_insert lists descending new, descending.place_eraseIdx new _,
      lists.distinct_insert distinct new, (inRange.eraseIdx _).place small⟩
  | remove line =>
    cases found : table.position line with
    | none =>
      rw [Table.after, Table.remove, found]
      exact ⟨bindings, lists, descending, distinct, inRange⟩
    | some index =>
      exact ⟨_, lists_after_remove lists found, List.Pairwise.eraseIdx _ descending,
        List.Pairwise.eraseIdx _ distinct, inRange.eraseIdx _⟩
  | clear =>
    rw [Table.after, Table.clear, apply_clearWrites]
    exact vacant
  | position line => exact ⟨bindings, lists, descending, distinct, inRange⟩

/-- **Any number of operations**, from the vacant table on. -/
theorem foldl_after {ops : List (TableOp α)} (proper : ∀ op ∈ ops, op.Proper) :
    (ops.foldl Table.after (Table.vacant : Table α)).Regular := by
  induction ops using List.reverseRecOn with
  | nil => exact vacant
  | append_singleton ops op ih =>
    rw [List.foldl_concat]
    exact (ih fun other member => proper other (List.mem_append_left _ member)).after
      (proper op (by simp))

theorem reported_insert (regular : table.Regular) {new : Binding α}
    (small : new.line < lineCount) :
    ∃ last, (table.insert new.entry).answer = .ok last ∧
      (table.after (.insert new.entry)).position new.line = some last ∧
      table.Sweeps (table.insert new.entry).writes
        ((table.position new.line).getD table.occupied) last ∧
      (table.after (.insert new.entry)).toList =
        (table.toList.eraseIdx ((table.position new.line).getD table.occupied)).insertIdx last
          new.entry := by
  obtain ⟨bindings, lists, descending, distinct, inRange⟩ := regular
  have inserted := lists_after_insert lists descending new
  have distinct_after := lists.distinct_insert distinct new
  have source_lt := (lists.vacated_le new.line).2
  have target_lt := lists.destination_lt descending new
  have arrived : (table.after (.insert new.entry)).get (table.destination new.entry) =
      new.entry := by
    rw [inserted.get, lists.destination descending, getElem?_placeIdx]
    rfl
  rw [← lists.vacated_eq distinct inRange small]
  refine ⟨table.destination new.entry, ?_, ?_, table.sweeps_moveWrites source_lt target_lt _,
    toList_moveWrites table source_lt target_lt _⟩
  · exact inserted.ifDense (descending.place_eraseIdx new _) distinct_after
      ((inRange.eraseIdx _).place small) _
  · exact inserted.position_of_line_get distinct_after (by rw [arrived]; rfl)

theorem reported_remove (regular : table.Regular) {line place : Nat}
    (found : table.position line = some place) :
    (table.remove line).answer = .ok (some place) ∧
      table.Sweeps (table.remove line).writes place 31 ∧
      (table.after (.remove line)).toList = table.toList.eraseIdx place ++ [Entry.vacant] := by
  obtain ⟨bindings, lists, descending, distinct, inRange⟩ := regular
  have removed := lists_after_remove lists found
  have inside := position_lt found
  have length : (table.toList.eraseIdx place).length = 31 := by
    rw [List.length_eraseIdx_of_lt (by rwa [length_toList]), length_toList]
  have behind := List.insertIdx_length_self (l := table.toList.eraseIdx place)
    (x := (Entry.vacant : Entry α))
  rw [length] at behind
  rw [Table.after, remove_of_position found] at removed
  rw [Table.after, remove_of_position found]
  refine ⟨?_, table.sweeps_moveWrites inside (by decide) _, ?_⟩
  · exact removed.ifDense (List.Pairwise.eraseIdx _ descending) (List.Pairwise.eraseIdx _ distinct)
      (inRange.eraseIdx _) _
  · rw [toList_moveWrites table inside (by decide), behind]

/-- **What is reported** of every operation. -/
theorem reported (regular : table.Regular) : table.Reported where
  insert entry line bound small ranked := by
    obtain ⟨priority, ranked⟩ := Option.isSome_iff_exists.mp ranked
    obtain ⟨new, rfl, rfl⟩ := Entry.exists_binding bound ranked
    exact regular.reported_insert small
  remove _ _ found := regular.reported_remove found
  absent line unbound := by rw [Table.remove, unbound]
  clear := ⟨table.sweeps_clearWrites, apply_clearWrites table⟩

end Regular

end Table

end VectoredInterrupts
