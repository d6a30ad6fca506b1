/-
**Tables of which nothing is asked.**

A table takes entries whose line does not exist, and entries that lack a line or a priority; it is
up to its users not to hand it such entries. It complains after the fact: an operation that changes
the table makes all its writes and then fails if the outcome is not dense. The entries stay as they
are, and the next operation starts from there.

`Table.robust_after`: whatever is asked of a table, and however often it has complained, its entries
stay in order, an operation fails if and only if it leaves a line behind that does not exist, and no
entry is lost that was not to be given up, but for the last one of a full table that has to take
in another line (`Table.Crowded`).

What carries the runs is `Table.Sound`: some list of distinct lines by descending urgency is what
the table lists. Whether these lines exist is left open.
-/

import VectoredInterrupts.Proofs.Table.Density
import VectoredInterrupts.Proofs.Table.Registrations

namespace VectoredInterrupts

/-- What is asked of a table. -/
inductive TableOp (α : Type) where
  /-- Binds the line of an entry. -/
  | insert (entry : Entry α)
  /-- Gives up the binding of a line. -/
  | remove (line : Nat)
  /-- Gives up every binding. -/
  | clear
  /-- Asks for the place of a line. -/
  | position (line : Nat)

theorem Binding.entry_injective {α : Type} {first second : Binding α}
    (same : first.entry = second.entry) : first = second := by
  cases first
  cases second
  cases same
  rfl

/-- A complete entry is that of a binding. -/
theorem Entry.exists_binding {α : Type} {entry : Entry α} {line : Nat} {priority : Byte}
    (bound : entry.line = some line) (ranked : entry.priority = some priority) :
    ∃ binding : Binding α, binding.entry = entry ∧ binding.line = line := by
  cases entry
  cases bound
  cases ranked
  exact ⟨⟨line, priority, _⟩, rfl, rfl⟩

/-- Taking out the binding at one index leaves all others. -/
theorem Distinct.mem_eraseIdx {α : Type} {bindings : List (Binding α)}
    (distinct : Distinct bindings) {index : Nat} (inside : index < bindings.length)
    {other : Binding α} :
    other ∈ bindings.eraseIdx index ↔ other ∈ bindings ∧ other ≠ bindings[index] := by
  rw [List.mem_eraseIdx_iff_getElem, List.mem_iff_getElem]
  constructor
  · rintro ⟨place, bound, apart, rfl⟩
    exact ⟨⟨place, bound, rfl⟩, fun same => apart (distinct.nodup.getElem_inj_iff.mp same)⟩
  · rintro ⟨⟨place, bound, rfl⟩, apart⟩
    exact ⟨place, bound, fun same => apart (by subst same; rfl), rfl⟩

theorem Descending.place_eraseIdx {α : Type} {bindings : List (Binding α)}
    (descending : Descending bindings) (new : Binding α) (index : Nat) :
    Descending (place new (bindings.eraseIdx index)) := by
  have kept : Descending (bindings.eraseIdx index) := List.Pairwise.eraseIdx _ descending
  exact pairwise_place kept kept (fun _ _ above => above) fun _ _ below => below.le

namespace Table

variable {α : Type} [Inhabited α]

/-- The table that an operation leaves behind, whether it answers or fails. -/
def after (table : Table α) : TableOp α → Table α
  | .insert entry => table.apply (table.insert entry).writes
  | .remove line => table.apply (table.remove line).writes
  | .clear => table.apply (clear : Update α Unit).writes
  | .position _ => table

/-! ### What is promised -/

/-- Occupied entries come first, priorities never rise, and no line is bound twice. -/
structure Ordered (table : Table α) : Prop where
  front : table.toList.Pairwise fun earlier later => later.line.isSome → earlier.line.isSome
  descending : table.toList.Pairwise fun earlier later =>
    rank later.priority ≤ rank earlier.priority
  distinct : table.toList.Pairwise fun earlier later => later.line.isSome →
    earlier.line ≠ later.line

/-- Some entry binds a line that does not exist. -/
def Stray (table : Table α) : Prop :=
  ∃ entry ∈ table.toList, ∃ line, entry.line = some line ∧ lineCount ≤ line

/-- Every place is in use, and none of them by the line. -/
def Crowded (table : Table α) (line : Nat) : Prop :=
  table.occupied = 32 ∧ table.position line = none

/-- An operation makes its writes and complains afterwards, exactly if a line does not exist. Every
place that has changed is among the writes, and every write is about what its place ends up with. -/
structure Complains {ρ : Type} (table : Table α) (update : Update α ρ) (value : ρ) : Prop where
  fails : update.answer = .error .tableNotDense ↔ (table.apply update.writes).Stray
  answers : update.answer = .ok value ↔ ¬ (table.apply update.writes).Stray
  reports : ∀ index < 32, (table.apply update.writes).get index ≠ table.get index →
    ⟨index, (table.apply update.writes).get index⟩ ∈ update.writes
  faithful : ∀ write ∈ update.writes,
    write.index < 32 ∧ write.entry = (table.apply update.writes).get write.index

/-- What holds of a table at any time. -/
structure Robust (table : Table α) : Prop where
  ordered : table.Ordered
  /-- An incomplete entry is turned down before anything is written. -/
  incomplete : ∀ entry : Entry α, entry.line = none ∨ entry.priority = none →
    table.insert entry = ⟨[], .error .incompleteEntry⟩
  /-- A complete entry ends up at some place, next to those of the other lines. Only a crowded table
  loses one of them, its last one. -/
  insert : ∀ entry : Entry α, ∀ line priority, entry.line = some line →
    entry.priority = some priority →
    ∃ place < 32, Complains table (table.insert entry) place ∧
      (table.after (.insert entry)).get place = entry ∧
      ∀ other : Entry α, other.line.isSome →
        (other ∈ (table.after (.insert entry)).toList ↔
          other = entry ∨ (other ∈ table.toList ∧ other.line ≠ some line ∧
            (table.Crowded line → other ≠ table.get 31)))
  /-- Removing a line that is not bound has no effect, and the line that is bound is the only one
  to go. -/
  absent : ∀ line, table.position line = none → table.remove line = ⟨[], .ok none⟩
  remove : ∀ line place, table.position line = some place →
    Complains table (table.remove line) (some place) ∧
      ∀ other : Entry α, other.line.isSome →
        (other ∈ (table.after (.remove line)).toList ↔
          other ∈ table.toList ∧ other.line ≠ some line)
  clear : (Table.clear : Update α Unit).answer = .ok () ∧ table.after .clear = vacant
  position : ∀ line place, table.position line = some place ↔
    place < 32 ∧ (table.get place).line = some line

/-! ### Tables that list distinct lines -/

/-- The table lists distinct lines by descending urgency. -/
def Sound (table : Table α) : Prop :=
  ∃ bindings, table.Lists bindings ∧ Descending bindings ∧ Distinct bindings

namespace Lists

variable {table : Table α} {bindings : List (Binding α)}

theorem mem_toList_iff (lists : table.Lists bindings) {entry : Entry α}
    (occupied : entry.line.isSome) :
    entry ∈ table.toList ↔ ∃ binding ∈ bindings, binding.entry = entry := by
  rw [lists, List.mem_append, List.mem_map, or_iff_left]
  intro vacant
  rw [List.eq_of_mem_replicate vacant] at occupied
  cases occupied

theorem occupied (lists : table.Lists bindings) : table.occupied = bindings.length := by
  have bound : ∀ entry ∈ bindings.map Binding.entry, (!entry.isVacant) = true := by
    intro entry member
    obtain ⟨binding, -, rfl⟩ := List.mem_map.mp member
    rfl
  have free : ∀ entry ∈ List.replicate (32 - bindings.length) (Entry.vacant : Entry α),
      ¬ (!entry.isVacant) = true := by
    intro entry member
    rw [List.eq_of_mem_replicate member]
    exact Bool.false_ne_true
  rw [Table.occupied, lists, List.filter_append, List.filter_eq_self.mpr bound,
    List.filter_eq_nil_iff.mpr free, List.append_nil, List.length_map]

theorem stray_iff (lists : table.Lists bindings) : table.Stray ↔ ¬ InRange bindings := by
  unfold Stray InRange
  push Not
  constructor
  · rintro ⟨entry, member, line, bound, large⟩
    obtain ⟨binding, listed, rfl⟩ := (lists.mem_toList_iff (by rw [bound]; rfl)).mp member
    exact ⟨binding, listed, (Option.some.inj bound).symm ▸ large⟩
  · rintro ⟨binding, listed, large⟩
    exact ⟨binding.entry, (lists.mem_toList_iff rfl).mpr ⟨binding, listed, rfl⟩, binding.line, rfl,
      large⟩

theorem ordered (lists : table.Lists bindings) (descending : Descending bindings)
    (distinct : Distinct bindings) : table.Ordered := by
  have pairs := lists.inOrder descending distinct
  refine ⟨pairs.imp fun inOrder bound => (inOrder bound).1, ?_,
    pairs.imp fun inOrder bound => (inOrder bound).2.1⟩
  rw [lists, List.pairwise_append]
  refine ⟨List.pairwise_map.mpr (descending.imp Nat.succ_le_succ),
    List.pairwise_replicate.mpr (.inr (Nat.le_refl _)), fun earlier _ later vacant => ?_⟩
  rw [List.eq_of_mem_replicate vacant]
  exact Nat.zero_le _

/-- The answer of an operation that leaves the table behind. -/
theorem ifDense_eq {ρ : Type} (lists : table.Lists bindings) (descending : Descending bindings)
    (distinct : Distinct bindings) (value : ρ) :
    (table.ifDense value = .error .tableNotDense ↔ table.Stray) ∧
      (table.ifDense value = .ok value ↔ ¬ table.Stray) := by
  obtain ⟨verdict, checked, decides⟩ := lists.checkDense_eq descending distinct
  rw [Table.ifDense, checked, lists.stray_iff, ← decides]
  cases verdict <;> simp

/-- **What an insertion gives up**: the binding of the line and, if every place is taken by another
line, the last one. -/
theorem mem_eraseIdx_vacated (lists : table.Lists bindings) (distinct : Distinct bindings)
    (line : Nat) (other : Binding α) :
    other ∈ bindings.eraseIdx (table.vacated (some line)) ↔
      other ∈ bindings ∧ other.line ≠ line ∧
        (table.Crowded line → other.entry ≠ table.get 31) := by
  have room := lists.length_le
  have found : (bindings.findIdx fun binding => binding.line == line) ≤ bindings.length :=
    List.findIdx_le_length
  have absent_iff : table.position line = none ↔
      (bindings.findIdx fun binding => binding.line == line) = bindings.length := by
    rw [lists.position, List.findIdx?_eq_none_iff_findIdx_eq]
  rw [Crowded, lists.occupied, absent_iff, lists.vacated]
  by_cases inside : (bindings.findIdx fun binding => binding.line == line) ≤ 31
  · rw [Nat.min_eq_left inside, eraseIdx_findIdx_line distinct, List.mem_filter, bne_iff_ne]
    refine and_congr_right fun _ => (and_iff_left ?_).symm
    rintro ⟨full, absent⟩
    omega
  · -- the line is not bound, and there is no vacant place either
    have absent : (bindings.findIdx fun binding => binding.line == line) = bindings.length := by
      omega
    have full : bindings.length = 32 := by omega
    have last : table.get 31 = bindings[31].entry := by
      rw [lists.get, List.getElem?_eq_getElem]
      rfl
    have others : ∀ binding ∈ bindings, binding.line ≠ line := by
      intro binding member
      exact beq_eq_false_iff_ne.mp (List.findIdx_eq_length.mp absent binding member)
    rw [Nat.min_eq_right (by omega), distinct.mem_eraseIdx (by omega), last]
    refine and_congr_right fun member => ⟨fun apart => ⟨others other member, fun _ same => ?_⟩,
      fun kept same => kept.2 ⟨full, absent⟩ (congrArg Binding.entry same)⟩
    exact apart (Binding.entry_injective same)

/-- The new binding and the ones that an insertion does not give up are distinct. -/
theorem distinct_insert (lists : table.Lists bindings) (distinct : Distinct bindings)
    (new : Binding α) :
    Distinct (place new (bindings.eraseIdx (table.vacated (some new.line)))) := by
  refine List.Pairwise.perm (List.pairwise_cons.mpr ⟨fun other member => ?_, ?_⟩)
    (place_perm new _).symm fun apart => apart.symm
  · exact ((lists.mem_eraseIdx_vacated distinct new.line other).mp member).2.1.symm
  · exact List.Pairwise.eraseIdx _ distinct

end Lists

/-! ### One operation -/

/-- An operation that moves an entry complains as described, if it leaves distinct lines in order
behind. -/
theorem complains_moveWrites {ρ : Type} (table : Table α) {source target : Nat}
    (source_lt : source < 32) (target_lt : target < 32) (entry : Entry α) (value : ρ)
    {outcome : List (Binding α)}
    (lists : (table.apply (table.moveWrites source target entry)).Lists outcome)
    (descending : Descending outcome) (distinct : Distinct outcome) :
    Complains table ⟨table.moveWrites source target entry,
      (table.apply (table.moveWrites source target entry)).ifDense value⟩ value := by
  have faithful : ∀ write ∈ table.moveWrites source target entry, write.index < 32 ∧
      write.entry = (table.apply (table.moveWrites source target entry)).get write.index := by
    intro write member
    rw [get_moveWrites table source_lt target_lt, if_pos (List.mem_map_of_mem member)]
    exact ⟨index_lt_of_mem_moveWrites source_lt target_lt member, entry_of_mem_moveWrites member⟩
  refine ⟨(lists.ifDense_eq descending distinct value).1,
    (lists.ifDense_eq descending distinct value).2, fun index inside changed => ?_, faithful⟩
  have written : index ∈ (table.moveWrites source target entry).map Write.index := by
    by_contra unwritten
    exact changed (get_apply_of_not_mem unwritten table)
  obtain ⟨⟨place, content⟩, member, rfl⟩ := List.mem_map.mp written
  have final := (faithful _ member).2
  rw [← final]
  exact member

theorem insert_of_incomplete (table : Table α) {entry : Entry α}
    (lacking : entry.line = none ∨ entry.priority = none) :
    table.insert entry = ⟨[], .error .incompleteEntry⟩ := by
  rw [Table.insert, if_neg]
  rintro ⟨line, priority⟩
  rcases lacking with absent | absent
  · rw [absent] at line
    cases line
  · rw [absent] at priority
    cases priority

theorem lists_after_insert {table : Table α} {bindings : List (Binding α)}
    (lists : table.Lists bindings) (descending : Descending bindings) (new : Binding α) :
    (table.after (.insert new.entry)).Lists
      (place new (bindings.eraseIdx (table.vacated (some new.line)))) :=
  lists.insert descending new

theorem lists_after_remove {table : Table α} {bindings : List (Binding α)}
    (lists : table.Lists bindings) {line index : Nat} (found : table.position line = some index) :
    (table.after (.remove line)).Lists (bindings.eraseIdx index) := by
  rw [lists.position] at found
  obtain ⟨inside, -⟩ := List.findIdx?_eq_some_iff_findIdx_eq.mp found
  rw [Table.after, Table.remove, lists.position, found]
  exact lists.remove inside

namespace Sound

variable {table : Table α}

theorem vacant : (Table.vacant : Table α).Sound := ⟨[], lists_vacant, .nil, .nil⟩

/-- **One operation** on a table in order leaves a table in order, even if it fails. -/
theorem after (sound : table.Sound) (op : TableOp α) : (table.after op).Sound := by
  obtain ⟨bindings, lists, descending, distinct⟩ := sound
  cases op with
  | insert entry =>
    by_cases lacking : entry.line = none ∨ entry.priority = none
    · rw [Table.after, insert_of_incomplete table lacking]
      exact ⟨bindings, lists, descending, distinct⟩
    · obtain ⟨lined, ranked⟩ := not_or.mp lacking
      obtain ⟨line, bound⟩ := Option.ne_none_iff_exists'.mp lined
      obtain ⟨priority, ranked⟩ := Option.ne_none_iff_exists'.mp ranked
      obtain ⟨new, rfl, -⟩ := Entry.exists_binding bound ranked
      exact ⟨_, lists_after_insert lists descending new, descending.place_eraseIdx new _,
        lists.distinct_insert distinct new⟩
  | remove line =>
    cases found : table.position line with
    | none =>
      rw [Table.after, Table.remove, found]
      exact ⟨bindings, lists, descending, distinct⟩
    | some index =>
      exact ⟨_, lists_after_remove lists found, List.Pairwise.eraseIdx _ descending,
        List.Pairwise.eraseIdx _ distinct⟩
  | clear =>
    rw [Table.after]
    exact (apply_clearWrites table).symm ▸ Sound.vacant
  | position line => exact ⟨bindings, lists, descending, distinct⟩

theorem inserts (sound : table.Sound) (new : Binding α) :
    ∃ place < 32, Complains table (table.insert new.entry) place ∧
      (table.after (.insert new.entry)).get place = new.entry ∧
      ∀ other : Entry α, other.line.isSome →
        (other ∈ (table.after (.insert new.entry)).toList ↔
          other = new.entry ∨ (other ∈ table.toList ∧ other.line ≠ some new.line ∧
            (table.Crowded new.line → other ≠ table.get 31))) := by
  obtain ⟨bindings, lists, descending, distinct⟩ := sound
  have inserted := lists_after_insert lists descending new
  have target_lt := lists.destination_lt descending new
  refine ⟨table.destination new.entry, target_lt,
    table.complains_moveWrites (lists.vacated_le new.line).2 target_lt new.entry _ inserted
      (descending.place_eraseIdx new _) (lists.distinct_insert distinct new), ?_,
    fun other occupied => ?_⟩
  · rw [inserted.get, lists.destination descending, getElem?_placeIdx]
    rfl
  · rw [inserted.mem_toList_iff occupied, lists.mem_toList_iff occupied]
    simp only [mem_place, lists.mem_eraseIdx_vacated distinct]
    constructor
    · rintro ⟨binding, rfl | ⟨member, apart, kept⟩, rfl⟩
      · exact .inl rfl
      · exact .inr ⟨⟨binding, member, rfl⟩, fun same => apart (Option.some.inj same), kept⟩
    · rintro (rfl | ⟨⟨binding, member, rfl⟩, apart, kept⟩)
      · exact ⟨new, .inl rfl, rfl⟩
      · exact ⟨binding, .inr ⟨member, fun same => apart (congrArg some same), kept⟩, rfl⟩

theorem removes (sound : table.Sound) {line index : Nat}
    (found : table.position line = some index) :
    Complains table (table.remove line) (some index) ∧
      ∀ other : Entry α, other.line.isSome →
        (other ∈ (table.after (.remove line)).toList ↔
          other ∈ table.toList ∧ other.line ≠ some line) := by
  obtain ⟨bindings, lists, descending, distinct⟩ := sound
  have removed := lists_after_remove lists found
  have there := (lists.position line).symm.trans found
  have first := (List.findIdx?_eq_some_iff_findIdx_eq.mp there).2
  refine ⟨?_, fun other occupied => ?_⟩
  · rw [Table.after, remove_of_position found] at removed
    rw [remove_of_position found]
    exact table.complains_moveWrites (position_lt found) (by decide) _ _ removed
      (List.Pairwise.eraseIdx _ descending) (List.Pairwise.eraseIdx _ distinct)
  · rw [removed.mem_toList_iff occupied, lists.mem_toList_iff occupied, ← first,
      eraseIdx_findIdx_line distinct]
    simp only [List.mem_filter, bne_iff_ne]
    constructor
    · rintro ⟨binding, ⟨member, apart⟩, rfl⟩
      exact ⟨⟨binding, member, rfl⟩, fun same => apart (Option.some.inj same)⟩
    · rintro ⟨⟨binding, member, rfl⟩, apart⟩
      exact ⟨binding, ⟨member, fun same => apart (congrArg some same)⟩, rfl⟩

/-- A table in order keeps all that is promised. -/
theorem robust (sound : table.Sound) : table.Robust where
  ordered := by
    obtain ⟨bindings, lists, descending, distinct⟩ := sound
    exact lists.ordered descending distinct
  incomplete _ lacking := insert_of_incomplete table lacking
  insert entry line priority bound ranked := by
    obtain ⟨new, rfl, rfl⟩ := Entry.exists_binding bound ranked
    exact sound.inserts new
  absent line unbound := by rw [Table.remove, unbound]
  remove _ _ found := sound.removes found
  clear := ⟨rfl, apply_clearWrites table⟩
  position line place := by
    obtain ⟨bindings, lists, -, distinct⟩ := sound
    exact ⟨fun found => ⟨position_lt found, line_get_of_position found⟩,
      fun bound => lists.position_of_line_get distinct bound.2⟩

end Sound

/-- **A table at any time.** -/
theorem robust_after (ops : List (TableOp α)) :
    (ops.foldl Table.after (Table.vacant : Table α)).Robust := by
  suffices sound : (ops.foldl Table.after (Table.vacant : Table α)).Sound from sound.robust
  induction ops using List.reverseRecOn with
  | nil => exact Sound.vacant
  | append_singleton ops op ih =>
    rw [List.foldl_concat]
    exact ih.after op

end Table

end VectoredInterrupts
