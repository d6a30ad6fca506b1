/-
**Priority tables.**

A table has 32 places. An occupied entry binds a request line to a payload at a priority; a vacant
entry has neither line nor priority. Every operation on a table is given by the *writes* it makes,
in order: `Update.writes` lists them, `Table.apply` carries them out, and `Update.answer` is what
the operation returns afterwards. A caller that keeps a copy of part of the table elsewhere follows
the same list.

Entries are kept dense: occupied ones first, by descending priority, equal priorities in the order
of their insertion. `Table.checkDense` is the check that is made after every change.
-/

import VectoredInterrupts.Fault

namespace VectoredInterrupts

/-- One place of a table. -/
structure Entry (α : Type) where
  /-- The line served, if the place is occupied. -/
  line : Option Nat
  /-- The priority, if the place is occupied. -/
  priority : Option Byte
  /-- What the line is bound to. -/
  payload : α
deriving DecidableEq

namespace Entry

variable {α : Type}

/-- The entry of a place that is not in use. -/
def vacant [Inhabited α] : Entry α := ⟨none, none, default⟩

instance [Inhabited α] : Inhabited (Entry α) := ⟨vacant⟩

/-- An entry that binds a line. -/
def binding (line : Nat) (priority : Byte) (payload : α) : Entry α :=
  ⟨some line, some priority, payload⟩

/-- Whether the place is not in use. -/
def isVacant (entry : Entry α) : Bool := entry.line.isNone

end Entry

/-- The order of priorities: a missing one ranks below all others. -/
def rank : Option Byte → Nat
  | none => 0
  | some priority => priority.toNat + 1

/-- A table of bindings. -/
structure Table (α : Type) where
  /-- The places, the most urgent first. -/
  entries : Vector (Entry α) 32
deriving DecidableEq

/-- One entry written to a place. -/
structure Write (α : Type) where
  /-- The place. -/
  index : Nat
  /-- What it holds from now on. -/
  entry : Entry α
deriving DecidableEq

/-- An operation on a table: its writes in order, and its answer. -/
structure Update (α ρ : Type) where
  /-- The writes, in the order they are made. -/
  writes : List (Write α)
  /-- What is returned once they are made. -/
  answer : Except Fault ρ

namespace Table

variable {α : Type}

/-- The table that binds nothing. -/
def vacant [Inhabited α] : Table α := ⟨Vector.replicate 32 Entry.vacant⟩

instance [Inhabited α] : Inhabited (Table α) := ⟨vacant⟩

/-- The entry at a place. -/
def get [Inhabited α] (table : Table α) (index : Nat) : Entry α :=
  table.entries[index]?.getD Entry.vacant

/-- The entries, the most urgent first. -/
def toList (table : Table α) : List (Entry α) := table.entries.toList

/-- The table after one write. -/
def write (table : Table α) (write : Write α) : Table α :=
  ⟨table.entries.setIfInBounds write.index write.entry⟩

/-- A write changes the entry at its place only. -/
theorem get_write [Inhabited α] (table : Table α) (change : Write α) (inside : change.index < 32)
    (index : Nat) :
    (table.write change).get index =
      if change.index = index then change.entry else table.get index := by
  unfold get write
  rw [Vector.getElem?_setIfInBounds]
  by_cases same : change.index = index
  · rw [if_pos same, if_pos same, if_pos inside]
    rfl
  · rw [if_neg same, if_neg same]

/-- The table after a list of writes. -/
def apply (table : Table α) (writes : List (Write α)) : Table α := writes.foldl Table.write table

/-- The place of the binding of a line. -/
def position (table : Table α) (line : Nat) : Option Nat :=
  table.toList.findIdx? fun entry => entry.line == some line

/-- The number of places in use. -/
def occupied (table : Table α) : Nat := (table.toList.filter fun entry => !entry.isVacant).length

/-! ### The density check -/

/-- What the density check remembers of the entries it has passed. -/
structure Scan where
  /-- The lines met so far. -/
  seen : LineSet := 0
  /-- The priority of the last occupied entry. -/
  previous : Option Byte := none
  /-- Whether a vacant entry has been met. -/
  vacancy : Bool := false

/-- The check from one entry on. -/
def checkFrom : List (Entry α) → Scan → Except Fault Bool
  | [], _ => .ok true
  | entry :: rest, scan =>
    match entry.line with
    | none => checkFrom rest { scan with vacancy := true }
    | some line =>
      if scan.vacancy || decide (32 ≤ line) then .ok false
      else
        match LineSet.single line with
        | .error fault => .error fault
        | .ok bit =>
          if scan.seen &&& bit ≠ 0 then .ok false
          else if scan.previous.isSome ∧ rank scan.previous < rank entry.priority then .ok false
          else checkFrom rest { scan with seen := scan.seen ||| bit, previous := entry.priority }

/-- Whether no vacant entry comes before an occupied one, every line is below 32 and bound once,
and priorities never rise. -/
def checkDense (table : Table α) : Except Fault Bool := checkFrom table.toList {}

/-- The answer of an operation that leaves `table` behind: `value`, provided the table is dense. -/
def ifDense {ρ : Type} (table : Table α) (value : ρ) : Except Fault ρ :=
  match table.checkDense with
  | .error fault => .error fault
  | .ok true => .ok value
  | .ok false => .error .tableNotDense

/-! ### Operations -/

variable [Inhabited α]

/-- The place an entry takes over: that of its line, or the first vacant one, and the last place if
there is neither. -/
def vacated (table : Table α) (line : Option Nat) : Nat :=
  (table.toList.findIdx? fun entry => entry.isVacant || entry.line == line).getD 31

/-- The place of the first entry that ranks below a priority, or the end of the table. -/
def outranked (table : Table α) (priority : Option Byte) : Nat :=
  (table.toList.findIdx? fun entry => decide (rank entry.priority < rank priority)).getD 32

/-- Where an entry ends up. An entry that moves towards the end stops before the one that ranks
below it. -/
def destination (table : Table α) (entry : Entry α) : Nat :=
  if table.vacated entry.line < table.outranked entry.priority then
    table.outranked entry.priority - 1
  else table.outranked entry.priority

/-- The writes that move the entries between the vacated place and the destination over by one. -/
def shifts (table : Table α) (source target : Nat) : List (Write α) :=
  if target < source then
    (List.range' (target + 1) (source - target)).reverse.map fun index =>
      ⟨index, table.get (index - 1)⟩
  else
    (List.range' source (target - source)).map fun index => ⟨index, table.get (index + 1)⟩

/-- The writes that put an entry in its place. -/
def insertWrites (table : Table α) (entry : Entry α) : List (Write α) :=
  table.shifts (table.vacated entry.line) (table.destination entry) ++
    [⟨table.destination entry, entry⟩]

/-- Binds the line of an entry, behind the entries that rank at least as high. A binding the line
already has is given up. -/
def insert (table : Table α) (entry : Entry α) : Update α Nat :=
  if entry.line.isSome ∧ entry.priority.isSome then
    ⟨table.insertWrites entry,
      (table.apply (table.insertWrites entry)).ifDense (table.destination entry)⟩
  else ⟨[], .error .incompleteEntry⟩

/-- The writes that close the gap a removed entry leaves. -/
def removeWrites (table : Table α) (index : Nat) : List (Write α) :=
  table.shifts index 31 ++ [⟨31, Entry.vacant⟩]

/-- Gives up the binding of a line, if it has one. -/
def remove (table : Table α) (line : Nat) : Update α (Option Nat) :=
  match table.position line with
  | none => ⟨[], .ok none⟩
  | some index =>
    ⟨table.removeWrites index, (table.apply (table.removeWrites index)).ifDense (some index)⟩

/-- The writes that vacate every place. -/
def clearWrites : List (Write α) := (List.range 32).map fun index => ⟨index, Entry.vacant⟩

/-- Gives up every binding. -/
def clear : Update α Unit := ⟨clearWrites, .ok ()⟩

end Table

end VectoredInterrupts
