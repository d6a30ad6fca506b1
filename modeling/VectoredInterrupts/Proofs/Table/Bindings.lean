/-
**Tables as lists of bindings.**

A table in use holds a list of bindings from place 0 on and vacant entries behind them
(`Table.Lists`). Read that way,

* `Table.Lists.position`, `Table.Lists.vacated` and `Table.Lists.outranked`: the searches of a table
  are searches of its list;
* `place`: a new binding goes in front of the first one that is less urgent;
* `eraseIdx_findIdx_line`: giving up the place of a line leaves the bindings of the other lines.
-/

import VectoredInterrupts.Table.Basic
import Mathlib.Data.List.Pairwise
import Mathlib.Data.List.Sort

namespace VectoredInterrupts

/-- A line bound to a payload. -/
structure Binding (α : Type) where
  line : Nat
  priority : Byte
  payload : α
deriving DecidableEq

namespace Binding

variable {α : Type}

/-- The entry that holds a binding. -/
def entry (binding : Binding α) : Entry α :=
  .binding binding.line binding.priority binding.payload

/-- How early a binding is served: the value of its priority. -/
def urgency (binding : Binding α) : Nat := binding.priority.toNat

@[simp]
theorem entry_line (binding : Binding α) : binding.entry.line = some binding.line := rfl

@[simp]
theorem entry_priority (binding : Binding α) : binding.entry.priority = some binding.priority := rfl

@[simp]
theorem entry_payload (binding : Binding α) : binding.entry.payload = binding.payload := rfl

end Binding

/-! ### Lists of bindings -/

section Lists

variable {α : Type}

/-- Puts a binding in front of the first one that is less urgent. -/
def place (new : Binding α) (bindings : List (Binding α)) : List (Binding α) :=
  bindings.orderedInsert (fun first second => second.urgency < first.urgency) new

theorem place_cons (new head : Binding α) (rest : List (Binding α)) :
    place new (head :: rest) =
      if head.urgency < new.urgency then new :: head :: rest else head :: place new rest :=
  rfl

theorem place_perm (new : Binding α) (bindings : List (Binding α)) :
    (place new bindings).Perm (new :: bindings) :=
  List.perm_orderedInsert _ new bindings

theorem mem_place {new other : Binding α} {bindings : List (Binding α)} :
    other ∈ place new bindings ↔ other = new ∨ other ∈ bindings := by
  rw [(place_perm new bindings).mem_iff, List.mem_cons]

/-- The index at which a binding is put. -/
def placeIdx (new : Binding α) (bindings : List (Binding α)) : Nat :=
  bindings.findIdx fun other => decide (other.urgency < new.urgency)

theorem placeIdx_le (new : Binding α) (bindings : List (Binding α)) :
    placeIdx new bindings ≤ bindings.length :=
  List.findIdx_le_length

theorem place_eq_insertIdx (new : Binding α) (bindings : List (Binding α)) :
    place new bindings = bindings.insertIdx (placeIdx new bindings) new := by
  induction bindings with
  | nil => rfl
  | cons head rest ih =>
    rw [place_cons, placeIdx, List.findIdx_cons]
    by_cases below : head.urgency < new.urgency
    · rw [if_pos below, decide_eq_true below]
      rfl
    · rw [if_neg below, decide_eq_false below, ih]
      rfl

theorem getElem?_placeIdx (new : Binding α) (bindings : List (Binding α)) :
    (place new bindings)[placeIdx new bindings]? = some new := by
  rw [place_eq_insertIdx, List.getElem?_insertIdx_self, if_pos (placeIdx_le new bindings)]

/-- Bindings from the most urgent to the least urgent. -/
def Descending (bindings : List (Binding α)) : Prop :=
  bindings.Pairwise fun earlier later => later.urgency ≤ earlier.urgency

/-- Every line is bound once. -/
def Distinct (bindings : List (Binding α)) : Prop :=
  bindings.Pairwise fun earlier later => earlier.line ≠ later.line

/-- Every line is one that the controller serves. -/
def InRange (bindings : List (Binding α)) : Prop := ∀ binding ∈ bindings, binding.line < lineCount

theorem Distinct.nodup {bindings : List (Binding α)} (distinct : Distinct bindings) :
    bindings.Nodup :=
  distinct.imp fun different same => different (congrArg Binding.line same)

/-- In a list without repeated lines, a line names one binding. -/
theorem Distinct.eq_of_line {bindings : List (Binding α)} (distinct : Distinct bindings)
    {first second : Binding α} (left : first ∈ bindings) (right : second ∈ bindings)
    (same : first.line = second.line) : first = second := by
  have : Std.Symm fun earlier later : Binding α => earlier.line ≠ later.line :=
    ⟨fun _ _ apart => apart.symm⟩
  by_contra different
  exact List.Pairwise.forall distinct left right different same

/-- Without a binding of the line, one more fits. -/
theorem Distinct.length_lt {bindings : List (Binding α)} (distinct : Distinct bindings)
    (inRange : InRange bindings) {line : Nat} (small : line < lineCount)
    (absent : ∀ binding ∈ bindings, binding.line ≠ line) : bindings.length < lineCount := by
  have lines : (line :: bindings.map Binding.line).Nodup := by
    refine List.nodup_cons.mpr ⟨fun member => ?_, List.pairwise_map.mpr distinct⟩
    obtain ⟨binding, bound, same⟩ := List.mem_map.mp member
    exact absent binding bound same
  have inside : line :: bindings.map Binding.line ⊆ List.range lineCount := by
    intro other member
    rcases List.mem_cons.mp member with rfl | member
    · exact List.mem_range.mpr small
    · obtain ⟨binding, bound, rfl⟩ := List.mem_map.mp member
      exact List.mem_range.mpr (inRange binding bound)
  have count := (List.subperm_of_subset lines inside).length_le
  rwa [List.length_cons, List.length_map, List.length_range, Nat.succ_le_iff] at count

/-- Giving up the place of a line leaves the bindings of the other lines. -/
theorem eraseIdx_findIdx_line {bindings : List (Binding α)} (distinct : Distinct bindings)
    (line : Nat) :
    bindings.eraseIdx (bindings.findIdx fun binding => binding.line == line) =
      bindings.filter fun binding => binding.line != line := by
  induction bindings with
  | nil => rfl
  | cons head rest ih =>
    obtain ⟨apart, distinct⟩ := List.pairwise_cons.mp distinct
    rw [List.findIdx_cons]
    by_cases same : head.line = line
    · subst same
      rw [beq_self_eq_true, cond_true, List.eraseIdx_zero, List.tail_cons,
        List.filter_cons_of_neg (by simp)]
      refine (List.filter_eq_self.mpr fun other member => ?_).symm
      exact bne_iff_ne.mpr (apart other member).symm
    · rw [beq_false_of_ne same, cond_false, List.eraseIdx_cons_succ,
        List.filter_cons_of_pos (by simpa using same)]
      exact congrArg (head :: ·) (ih distinct)

/-- Where a binding is put once another one has been given up. -/
theorem placeIdx_eraseIdx {bindings : List (Binding α)} (descending : Descending bindings)
    (new : Binding α) (index : Nat) :
    placeIdx new (bindings.eraseIdx index) =
      if index < placeIdx new bindings then placeIdx new bindings - 1
      else placeIdx new bindings := by
  induction bindings generalizing index with
  | nil => rfl
  | cons head rest ih =>
    obtain ⟨below, descending⟩ := List.pairwise_cons.mp descending
    cases index with
    | zero =>
      rw [List.eraseIdx_zero, List.tail_cons]
      unfold placeIdx
      rw [List.findIdx_cons]
      by_cases lower : head.urgency < new.urgency
      · -- all that follow are less urgent as well
        rw [decide_eq_true lower, cond_true, if_neg (Nat.lt_irrefl 0)]
        cases rest with
        | nil => rfl
        | cons next rest =>
          have next_lower := below next List.mem_cons_self
          rw [List.findIdx_cons, decide_eq_true (by omega), cond_true]
      · rw [decide_eq_false lower, cond_false, if_pos (Nat.succ_pos _), Nat.add_sub_cancel]
    | succ index =>
      have later := ih descending index
      rw [List.eraseIdx_cons_succ]
      unfold placeIdx at later ⊢
      rw [List.findIdx_cons, List.findIdx_cons]
      by_cases lower : head.urgency < new.urgency
      · rw [decide_eq_true lower, cond_true, cond_true, if_neg (Nat.not_lt_zero _)]
      · rw [decide_eq_false lower, cond_false, cond_false, later]
        split <;> split <;> omega

end Lists

/-! ### The list of a table -/

namespace Table

variable {α : Type} [Inhabited α]

/-- The table holds the bindings of a list, in order and from place 0 on, and nothing else. -/
def Lists (table : Table α) (bindings : List (Binding α)) : Prop :=
  table.toList = bindings.map Binding.entry ++ List.replicate (32 - bindings.length) Entry.vacant

omit [Inhabited α] in
theorem length_toList (table : Table α) : table.toList.length = 32 := by
  simp [toList]

theorem getElem?_toList (table : Table α) {index : Nat} (inside : index < 32) :
    table.toList[index]? = some (table.get index) := by
  unfold toList get
  rw [Vector.getElem?_toList, Vector.getElem?_eq_getElem inside]
  rfl

theorem get_eq (table : Table α) (index : Nat) :
    table.get index = (table.toList[index]?).getD Entry.vacant := by
  rw [toList, Vector.getElem?_toList]
  rfl

/-- The position of a line holds the line. -/
theorem line_get_of_position {table : Table α} {line place : Nat}
    (found : table.position line = some place) : (table.get place).line = some line := by
  obtain ⟨inside, qualifies, -⟩ := List.findIdx?_eq_some_iff_getElem.mp found
  rw [get_eq, List.getElem?_eq_getElem inside]
  exact beq_iff_eq.mp qualifies

/-- A place that holds a line is inside the table. -/
theorem lt_of_line_get {table : Table α} {place line : Nat}
    (bound : (table.get place).line = some line) : place < 32 := by
  by_contra outside
  rw [get_eq, List.getElem?_eq_none (by rw [length_toList]; omega)] at bound
  cases bound

theorem position_lt {table : Table α} {line place : Nat}
    (found : table.position line = some place) : place < 32 :=
  lt_of_line_get (line_get_of_position found)

/-- Two tables with the same entries are the same. -/
theorem ext_get {first second : Table α} (same : ∀ index < 32, first.get index = second.get index) :
    first = second := by
  have lists : first.toList = second.toList := by
    refine List.ext_getElem? fun index => ?_
    by_cases inside : index < 32
    · rw [getElem?_toList first inside, getElem?_toList second inside, same index inside]
    · rw [List.getElem?_eq_none (by rw [length_toList]; omega),
        List.getElem?_eq_none (by rw [length_toList]; omega)]
  cases first
  cases second
  exact congrArg Table.mk (Vector.toList_inj.mp lists)

namespace Lists

variable {table : Table α} {bindings : List (Binding α)}

theorem length_le (lists : table.Lists bindings) : bindings.length ≤ 32 := by
  have count := congrArg List.length lists
  rw [length_toList, List.length_append, List.length_map, List.length_replicate] at count
  omega

/-- The entry at a place. -/
theorem get (lists : table.Lists bindings) (index : Nat) :
    table.get index = (bindings[index]?.map Binding.entry).getD Entry.vacant := by
  rw [get_eq, lists]
  by_cases inside : index < bindings.length
  · rw [List.getElem?_append_left (by rwa [List.length_map]), List.getElem?_map]
  · rw [List.getElem?_append_right (by rw [List.length_map]; omega),
      List.getElem?_eq_none (Nat.le_of_not_lt inside), List.getElem?_replicate]
    split <;> rfl

/-- A table lists one list. -/
theorem unique {others : List (Binding α)} (lists : table.Lists bindings)
    (also : table.Lists others) : bindings = others := by
  have back : ∀ list : List (Binding α), ∀ rest : Nat,
      (list.map Binding.entry ++ List.replicate rest Entry.vacant).filterMap
        (fun entry : Entry α => entry.line.bind fun line => entry.priority.map fun priority =>
          (⟨line, priority, entry.payload⟩ : Binding α)) = list := by
    intro list rest
    rw [List.filterMap_append, List.filterMap_map, List.filterMap_replicate_of_none rfl,
      List.append_nil]
    exact List.filterMap_some
  have same := congrArg (List.filterMap fun entry : Entry α => entry.line.bind fun line =>
    entry.priority.map fun priority => (⟨line, priority, entry.payload⟩ : Binding α))
    (lists.symm.trans also)
  rwa [back, back] at same

theorem position (lists : table.Lists bindings) (line : Nat) :
    table.position line = bindings.findIdx? fun binding => binding.line == line := by
  have none_behind : ∀ rest : Nat, (List.replicate rest (Entry.vacant : Entry α)).findIdx?
      (fun entry => entry.line == some line) = none := by
    intro rest
    refine List.findIdx?_eq_none_iff.mpr fun entry member => ?_
    rw [List.eq_of_mem_replicate member]
    rfl
  unfold Table.position
  rw [lists, List.findIdx?_append, none_behind, List.findIdx?_map]
  simp only [Option.map_none, Option.or_none]
  exact congrArg (List.findIdx? · bindings) (funext fun binding => rfl)

/-- A place that holds a line is its position. -/
theorem position_of_line_get (lists : table.Lists bindings) (distinct : Distinct bindings)
    {line place : Nat} (bound : (table.get place).line = some line) :
    table.position line = some place := by
  rw [lists.get] at bound
  cases there : bindings[place]? with
  | none =>
    rw [there] at bound
    cases bound
  | some binding =>
    rw [there] at bound
    obtain ⟨inside, rfl⟩ := List.getElem?_eq_some_iff.mp there
    rw [lists.position, List.findIdx?_eq_some_iff_getElem]
    refine ⟨inside, beq_iff_eq.mpr (Option.some.inj bound), fun earlier before same => ?_⟩
    refine List.pairwise_iff_getElem.mp distinct earlier place (before.trans inside) inside before
      ?_
    exact (beq_iff_eq.mp same).trans (Option.some.inj bound).symm

/-- The first index of a mapped list with vacant entries behind it, when the vacant ones qualify. -/
theorem findIdx?_getD (lists : table.Lists bindings) (qualifies : Entry α → Bool)
    (vacant : qualifies Entry.vacant = true) (last : Nat) :
    (table.toList.findIdx? qualifies).getD last =
      if bindings.findIdx (qualifies ∘ Binding.entry) < 32 then
        bindings.findIdx (qualifies ∘ Binding.entry) else last := by
  have room := lists.length_le
  have bound : bindings.findIdx (qualifies ∘ Binding.entry) ≤ bindings.length :=
    List.findIdx_le_length
  rw [lists, List.findIdx?_append, List.findIdx?_map, List.findIdx?_replicate, List.length_map]
  by_cases found : bindings.findIdx (qualifies ∘ Binding.entry) < bindings.length
  · rw [List.findIdx?_eq_guard_findIdx_lt, Option.guard_pos (by simpa using found),
      Option.some_or, Option.getD_some, if_pos (by omega)]
  · have whole : bindings.findIdx (qualifies ∘ Binding.entry) = bindings.length := by omega
    rw [List.findIdx?_eq_none_iff_findIdx_eq.mpr whole, whole]
    by_cases full : bindings.length < 32
    · rw [if_pos ⟨by omega, vacant⟩, if_pos full]
      simp
    · rw [if_neg (by omega), if_neg full]
      rfl

/-- The place that a binding of a line takes over. -/
theorem vacated (lists : table.Lists bindings) (line : Nat) :
    table.vacated (some line) =
      min (bindings.findIdx fun binding => binding.line == line) 31 := by
  have found := lists.findIdx?_getD (fun entry => entry.isVacant || entry.line == some line) rfl 31
  have same : (fun entry : Entry α => entry.isVacant || entry.line == some line) ∘ Binding.entry =
      fun binding => binding.line == line := funext fun binding => rfl
  rw [same] at found
  unfold Table.vacated
  rw [found]
  split <;> omega

/-- The place in front of which a binding goes. -/
theorem outranked (lists : table.Lists bindings) (new : Binding α) :
    table.outranked (some new.priority) = placeIdx new bindings := by
  have room := lists.length_le
  have bound := placeIdx_le new bindings
  have found := lists.findIdx?_getD
    (fun entry => decide (rank entry.priority < rank (some new.priority)))
    (decide_eq_true (Nat.succ_pos _)) 32
  have same : (fun entry : Entry α => decide (rank entry.priority < rank (some new.priority))) ∘
      Binding.entry = fun other => decide (other.urgency < new.urgency) := by
    funext other
    exact decide_eq_decide.mpr Nat.succ_lt_succ_iff
  rw [same] at found
  unfold Table.outranked
  rw [found]
  unfold placeIdx at bound ⊢
  split <;> omega

end Lists

theorem lists_vacant : (Table.vacant : Table α).Lists [] := by
  show (Vector.replicate 32 Entry.vacant).toList = _
  rw [Vector.toList_replicate]
  rfl

end Table

end VectoredInterrupts
