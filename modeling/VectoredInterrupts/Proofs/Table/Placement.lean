/-
**Inserting and removing.**

A table is changed place by place. On the list of its entries the writes of an insertion take the
entry at one place out and put a new one in at another, however far apart they are and whichever
comes first (`Table.toList_moveWrites`). For a table that lists bindings:

* `Table.Lists.insert`: the binding of the same line is given up, the last one if there is no room
  otherwise, and the new binding is placed among the others. It ends up at `Table.destination`;
* `Table.Lists.remove` and `Table.lists_clear`.
-/

import VectoredInterrupts.Proofs.Table.Bindings
import Mathlib.Data.List.InsertIdx

namespace VectoredInterrupts

namespace Table

variable {α : Type} [Inhabited α]

/-! ### Lists of writes -/

theorem get_write_of_ne {table : Table α} {change : Write α} {index : Nat}
    (other : change.index ≠ index) : (table.write change).get index = table.get index := by
  unfold get write
  rw [Vector.getElem?_setIfInBounds, if_neg other]

omit [Inhabited α] in
theorem apply_cons (table : Table α) (change : Write α) (rest : List (Write α)) :
    table.apply (change :: rest) = (table.write change).apply rest :=
  rfl

/-- Writes that put the same entry wherever they name the same place. -/
theorem get_apply (contents : Nat → Entry α) (writes : List (Write α)) (table : Table α)
    (agree : ∀ change ∈ writes, change.index < 32 ∧ change.entry = contents change.index)
    (index : Nat) :
    (table.apply writes).get index =
      if index ∈ writes.map Write.index then contents index else table.get index := by
  induction writes generalizing table with
  | nil => rfl
  | cons change rest ih =>
    obtain ⟨inside, entry⟩ := agree change List.mem_cons_self
    rw [apply_cons, ih _ fun other member => agree other (List.mem_cons_of_mem _ member),
      get_write _ _ inside, List.map_cons]
    by_cases later : index ∈ rest.map Write.index
    · rw [if_pos later, if_pos (List.mem_cons_of_mem _ later)]
    · rw [if_neg later]
      by_cases here : change.index = index
      · rw [if_pos here, if_pos (here ▸ List.mem_cons_self), entry, here]
      · rw [if_neg here, if_neg]
        rw [List.mem_cons]
        rintro (same | member)
        · exact here same.symm
        · exact later member

/-- Writes leave the places that they do not name alone. -/
theorem get_apply_of_not_mem {writes : List (Write α)} {index : Nat}
    (unwritten : index ∉ writes.map Write.index) (table : Table α) :
    (table.apply writes).get index = table.get index := by
  induction writes generalizing table with
  | nil => rfl
  | cons change rest ih =>
    obtain ⟨apart, unwritten⟩ := not_or.mp (mt List.mem_cons.mpr unwritten)
    rw [apply_cons, ih unwritten, get_write_of_ne (Ne.symm apart)]

/-- The writes that move an entry between two places. -/
theorem mem_shifts {table : Table α} {source target : Nat} {change : Write α} :
    change ∈ table.shifts source target ↔
      (target < change.index ∧ change.index ≤ source ∧
          change.entry = table.get (change.index - 1)) ∨
        (source ≤ change.index ∧ change.index < target ∧
          change.entry = table.get (change.index + 1)) := by
  obtain ⟨index, entry⟩ := change
  unfold shifts
  by_cases down : target < source
  · rw [if_pos down]
    simp only [List.mem_map, List.mem_reverse, List.mem_range'_1, Write.mk.injEq]
    constructor
    · rintro ⟨place, inside, rfl, rfl⟩
      exact .inl ⟨by omega, by omega, rfl⟩
    · rintro (⟨above, below, rfl⟩ | ⟨above, below, -⟩)
      · exact ⟨index, by omega, rfl, rfl⟩
      · omega
  · rw [if_neg down]
    simp only [List.mem_map, List.mem_range'_1, Write.mk.injEq]
    constructor
    · rintro ⟨place, inside, rfl, rfl⟩
      exact .inr ⟨by omega, by omega, rfl⟩
    · rintro (⟨above, below, -⟩ | ⟨above, below, rfl⟩)
      · omega
      · exact ⟨index, by omega, rfl, rfl⟩

/-- The writes that take an entry out at one place and put a new one in at another. -/
def moveWrites (table : Table α) (source target : Nat) (entry : Entry α) : List (Write α) :=
  table.shifts source target ++ [⟨target, entry⟩]

/-- They write the places from the source to the target. -/
theorem mem_index_moveWrites {table : Table α} {source target : Nat} {entry : Entry α}
    {index : Nat} :
    index ∈ (table.moveWrites source target entry).map Write.index ↔
      (target ≤ index ∧ index ≤ source) ∨ (source ≤ index ∧ index ≤ target) := by
  rw [moveWrites, List.map_append, List.mem_append, List.mem_map]
  simp only [List.map_cons, List.map_nil, List.mem_singleton]
  constructor
  · rintro (⟨change, member, rfl⟩ | rfl)
    · rcases mem_shifts.mp member with ⟨above, below, -⟩ | ⟨above, below, -⟩
      · exact .inl ⟨by omega, below⟩
      · exact .inr ⟨above, by omega⟩
    · omega
  · intro between
    by_cases here : index = target
    · exact .inr here
    · refine .inl ?_
      rcases between with ⟨above, below⟩ | ⟨above, below⟩
      · have inside : target < index := by omega
        exact ⟨⟨index, table.get (index - 1)⟩, mem_shifts.mpr (.inl ⟨inside, below, rfl⟩), rfl⟩
      · have inside : index < target := by omega
        exact ⟨⟨index, table.get (index + 1)⟩, mem_shifts.mpr (.inr ⟨above, inside, rfl⟩), rfl⟩

/-- They write inside the table. -/
theorem index_lt_of_mem_moveWrites {table : Table α} {source target : Nat} {entry : Entry α}
    (source_lt : source < 32) (target_lt : target < 32) {change : Write α}
    (member : change ∈ table.moveWrites source target entry) : change.index < 32 := by
  have written := List.mem_map_of_mem (f := Write.index) member
  have between := mem_index_moveWrites.mp written
  omega

/-- What a place holds once the writes of a move have reached it. -/
def moved (table : Table α) (source target : Nat) (entry : Entry α) (index : Nat) : Entry α :=
  if index = target then entry
  else if target < source then table.get (index - 1)
  else table.get (index + 1)

theorem entry_of_mem_moveWrites {table : Table α} {source target : Nat} {entry : Entry α}
    {change : Write α} (member : change ∈ table.moveWrites source target entry) :
    change.entry = table.moved source target entry change.index := by
  unfold moved
  rcases List.mem_append.mp member with shifted | last
  · rcases mem_shifts.mp shifted with ⟨above, below, same⟩ | ⟨above, below, same⟩
    · rw [if_neg (by omega), if_pos (by omega), same]
    · rw [if_neg (by omega), if_neg (by omega), same]
  · rw [List.mem_singleton.mp last, if_pos rfl]

/-- The entry at a place after a move. -/
theorem get_moveWrites (table : Table α) {source target : Nat} (source_lt : source < 32)
    (target_lt : target < 32) (entry : Entry α) (index : Nat) :
    (table.apply (table.moveWrites source target entry)).get index =
      if index ∈ (table.moveWrites source target entry).map Write.index then
        table.moved source target entry index
      else table.get index :=
  get_apply (table.moved source target entry) _ _ (fun _ member =>
    ⟨index_lt_of_mem_moveWrites source_lt target_lt member, entry_of_mem_moveWrites member⟩) index

/-- **Moving.** One entry is taken out and one is put in. -/
theorem toList_moveWrites (table : Table α) {source target : Nat} (source_lt : source < 32)
    (target_lt : target < 32) (entry : Entry α) :
    (table.apply (table.moveWrites source target entry)).toList =
      (table.toList.eraseIdx source).insertIdx target entry := by
  refine List.ext_getElem? fun index => ?_
  by_cases inside : index < 32
  · rw [getElem?_toList _ inside, get_moveWrites table source_lt target_lt, List.getElem?_insertIdx]
    simp only [mem_index_moveWrites, moved, List.getElem?_eraseIdx, List.length_eraseIdx,
      length_toList, if_pos source_lt]
    by_cases before : index < target
    · rw [if_pos before]
      by_cases early : index < source
      · rw [if_neg (by omega), if_pos early, getElem?_toList _ inside]
      · rw [if_pos (by omega), if_neg (by omega), if_neg (by omega), if_neg early,
          getElem?_toList _ (by omega)]
    · rw [if_neg before]
      by_cases here : index = target
      · rw [if_pos (by omega), if_pos here, if_pos here, if_pos (by omega)]
      · rw [if_neg here, if_neg here]
        by_cases early : index ≤ source
        · rw [if_pos (by omega), if_pos (by omega), if_pos (by omega), getElem?_toList _ (by omega)]
        · rw [if_neg (by omega), if_neg (by omega), Nat.sub_add_cancel (by omega),
            getElem?_toList _ inside]
  · have length : (table.toList.eraseIdx source).length = 31 := by
      rw [List.length_eraseIdx_of_lt (by rwa [length_toList]), length_toList]
    rw [List.getElem?_eq_none (by rw [length_toList]; omega), List.getElem?_eq_none]
    rw [List.length_insertIdx_of_le_length (by omega), length]
    omega

/-! ### Operations on tables that list bindings -/

theorem insertIdx_append_left {β : Type} {index : Nat} {front : List β}
    (bound : index ≤ front.length) (back : List β) (new : β) :
    (front ++ back).insertIdx index new = front.insertIdx index new ++ back := by
  induction front generalizing index with
  | nil =>
    obtain rfl : index = 0 := Nat.le_zero.mp bound
    rfl
  | cons head front ih =>
    cases index with
    | zero => rfl
    | succ index =>
      rw [List.cons_append, List.insertIdx_succ_cons, List.insertIdx_succ_cons,
        ih (Nat.le_of_succ_le_succ bound), List.cons_append]

namespace Lists

variable {table : Table α} {bindings : List (Binding α)}

/-- Taking an entry out of a table's list takes it out of its bindings. -/
theorem eraseIdx (lists : table.Lists bindings) {index : Nat} (inside : index < 32)
    (bound : index ≤ bindings.length) :
    table.toList.eraseIdx index = (bindings.eraseIdx index).map Binding.entry ++
      List.replicate (31 - (bindings.eraseIdx index).length) Entry.vacant := by
  have room := lists.length_le
  rw [lists]
  by_cases occupied : index < bindings.length
  · rw [List.eraseIdx_append_of_lt_length (by rwa [List.length_map]), List.eraseIdx_map,
      List.length_eraseIdx_of_lt occupied, show 31 - (bindings.length - 1) = 32 - bindings.length
        by omega]
  · obtain rfl : index = bindings.length := by omega
    rw [List.eraseIdx_append_of_length_le (by rw [List.length_map]),
      List.eraseIdx_of_length_le (Nat.le_refl _), List.length_map, Nat.sub_self,
      show 32 - bindings.length = (31 - bindings.length) + 1 by omega, List.replicate_succ]
    rfl

/-- The place that an entry takes over, and the place it ends up at. -/
theorem destination (lists : table.Lists bindings) (descending : Descending bindings)
    (new : Binding α) :
    table.destination new.entry =
      placeIdx new (bindings.eraseIdx (table.vacated (some new.line))) := by
  unfold Table.destination
  rw [Binding.entry_line, Binding.entry_priority, lists.outranked,
    placeIdx_eraseIdx descending]

/-- The place taken over is that of a binding, or the first one behind them. -/
theorem vacated_le (lists : table.Lists bindings) (line : Nat) :
    table.vacated (some line) ≤ bindings.length ∧ table.vacated (some line) < 32 := by
  have bound : bindings.findIdx (fun binding => binding.line == line) ≤ bindings.length :=
    List.findIdx_le_length
  rw [lists.vacated]
  omega

/-- There is room for one more binding once a place has been taken over. -/
theorem length_eraseIdx_vacated (lists : table.Lists bindings) (line : Nat) :
    (bindings.eraseIdx (table.vacated (some line))).length ≤ 31 := by
  have room := lists.length_le
  obtain ⟨bound, inside⟩ := lists.vacated_le line
  rw [List.length_eraseIdx]
  split <;> omega

/-- An entry ends up inside the table. -/
theorem destination_lt (lists : table.Lists bindings) (descending : Descending bindings)
    (new : Binding α) : table.destination new.entry < 32 := by
  have index := placeIdx_le new (bindings.eraseIdx (table.vacated (some new.line)))
  have room := lists.length_eraseIdx_vacated new.line
  rw [lists.destination descending]
  omega

/-- **Insertion.** -/
theorem insert (lists : table.Lists bindings) (descending : Descending bindings)
    (new : Binding α) :
    (table.apply (table.insertWrites new.entry)).Lists
      (place new (bindings.eraseIdx (table.vacated (some new.line)))) := by
  obtain ⟨bound, inside⟩ := lists.vacated_le new.line
  have index := placeIdx_le new (bindings.eraseIdx (table.vacated (some new.line)))
  have moves : table.insertWrites new.entry = table.moveWrites (table.vacated (some new.line))
      (table.destination new.entry) new.entry := rfl
  rw [Lists, moves, toList_moveWrites table inside (lists.destination_lt descending new),
    lists.destination descending, lists.eraseIdx inside bound, place_eq_insertIdx,
    insertIdx_append_left (by rwa [List.length_map]), ← List.map_insertIdx,
    List.length_insertIdx_of_le_length index, Nat.succ_sub_succ]

/-- **Removal.** -/
theorem remove (lists : table.Lists bindings) {index : Nat} (bound : index < bindings.length) :
    (table.apply (table.removeWrites index)).Lists (bindings.eraseIdx index) := by
  have room := lists.length_le
  have length := List.length_eraseIdx_of_lt bound
  have moves : table.removeWrites index = table.moveWrites index 31 Entry.vacant := rfl
  have last : ((bindings.eraseIdx index).map Binding.entry ++
      List.replicate (31 - (bindings.eraseIdx index).length) (Entry.vacant : Entry α)).length =
        31 := by
    rw [List.length_append, List.length_map, List.length_replicate]
    omega
  have behind := List.insertIdx_length_self (l := (bindings.eraseIdx index).map Binding.entry ++
    List.replicate (31 - (bindings.eraseIdx index).length) (Entry.vacant : Entry α))
    (x := Entry.vacant)
  rw [last] at behind
  rw [Lists, moves, toList_moveWrites table (by omega) (by omega),
    lists.eraseIdx (by omega) (by omega), behind, List.append_assoc, ← List.replicate_succ',
    show 31 - (bindings.eraseIdx index).length + 1 = 32 - (bindings.eraseIdx index).length
      by omega]

end Lists

/-- Removing a line that is bound moves a vacant entry to the end. -/
theorem remove_of_position {table : Table α} {line index : Nat}
    (found : table.position line = some index) :
    table.remove line = ⟨table.moveWrites index 31 Entry.vacant,
      (table.apply (table.moveWrites index 31 Entry.vacant)).ifDense (some index)⟩ := by
  rw [Table.remove, found]
  rfl

/-- The writes that vacate every place. -/
theorem mem_clearWrites {change : Write α} :
    change ∈ (clearWrites : List (Write α)) ↔ change.index < 32 ∧ change.entry = Entry.vacant := by
  obtain ⟨index, entry⟩ := change
  simp only [clearWrites, List.mem_map, List.mem_range, Write.mk.injEq]
  constructor
  · rintro ⟨place, inside, rfl, rfl⟩
    exact ⟨inside, rfl⟩
  · rintro ⟨inside, rfl⟩
    exact ⟨index, inside, rfl, rfl⟩

/-- **Clearing.** Whatever a table holds, it is vacant afterwards. -/
theorem apply_clearWrites (table : Table α) : table.apply clearWrites = Table.vacant := by
  refine ext_get fun index inside => ?_
  have written : index ∈ (clearWrites : List (Write α)).map Write.index :=
    List.mem_map.mpr ⟨⟨index, Entry.vacant⟩, mem_clearWrites.mpr ⟨inside, rfl⟩, rfl⟩
  rw [get_apply (fun _ => Entry.vacant) _ _ (fun change member => mem_clearWrites.mp member),
    if_pos written, lists_vacant.get]
  rfl

end Table

end VectoredInterrupts
