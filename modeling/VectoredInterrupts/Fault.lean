/-
**Faults and refusals.**

A *fault* stops the step that raises it: an internal check failed, or the hardware model does not
support the access. What happened before the fault stays. A *refusal* is an ordinary answer to a
request that names something unusable; it is logged and changes nothing.
-/

import VectoredInterrupts.Word

namespace VectoredInterrupts

/-- Why a step stops. -/
inductive Fault where
  /-- A line at or above 32 was looked up in a set of lines. -/
  | lineBeyondSet
  /-- A vector slot at or above 16 was named. -/
  | slotBeyondHardware
  /-- An entry without a line or without a priority was offered to a table. -/
  | incompleteEntry
  /-- A table is no longer dense after a change. -/
  | tableNotDense
  /-- A shift by at least the width of the shifted number. -/
  | shiftOverflow
  /-- The simulated controller has no readable register at this offset. -/
  | unsupportedRead (offset : Nat)
  /-- The simulated controller has no writable register at this offset. -/
  | unsupportedWrite (offset : Nat)
  /-- The offset lies outside the memory mapped block. -/
  | offsetBeyondBlock (offset : Nat)
  /-- A handler gave up. -/
  | handlerFailed
  /-- The controller presented a vector that no routine starts at. -/
  | notARoutine
  /-- Handlers called each other more deeply than the stack allows. -/
  | stackExhausted
deriving DecidableEq

/-- The text a fault is reported with. -/
def Fault.message : Fault → String
  | .lineBeyondSet => "assertion failed: index < SIZE"
  | .slotBeyondHardware => "assertion failed: slot < NR_VECTORS"
  | .incompleteEntry => "assertion failed: irq.is_some() && prio.is_some()"
  | .tableNotDense => "assertion failed: self.is_dense()"
  | .shiftOverflow => "attempt to shift left with overflow"
  | .unsupportedRead offset =>
    "not implemented: Unsupported VIC read for reg " ++ hex offset
  | .unsupportedWrite offset =>
    "not implemented: Unsupported VIC write for reg " ++ hex offset
  | .offsetBeyondBlock offset => "VIC offset " ++ hex offset ++ " out of range"
  | .handlerFailed => "handler panic"
  | .notARoutine => "not a routine"
  | .stackExhausted => "stack exhausted"

/-- The class of a refusal. -/
inductive RefusalKind where
  | invalidInput
  | notFound
  | badState
deriving DecidableEq

/-- The name of a class of refusals. -/
def RefusalKind.name : RefusalKind → String
  | .invalidInput => "InvalidInput"
  | .notFound => "NotFound"
  | .badState => "BadState"

/-- Why a request is turned down. -/
inductive Refusal where
  /-- A per-line operation named a line at or above 32. -/
  | lineOutOfRange
  /-- A polled registration named a line at or above 32. -/
  | polledLineOutOfRange
  /-- A vectored registration named a line at or above 32. -/
  | vectoredLineOutOfRange
  /-- No vector slot serves the line. -/
  | noSlot
  /-- The line is not asserted. -/
  | lineIdle
deriving DecidableEq

/-- The class of each refusal. -/
def Refusal.kind : Refusal → RefusalKind
  | .lineOutOfRange | .polledLineOutOfRange | .vectoredLineOutOfRange => .invalidInput
  | .noSlot => .notFound
  | .lineIdle => .badState

/-- The wording of each refusal. -/
def Refusal.text : Refusal → String
  | .lineOutOfRange => "IRQ out of range"
  | .polledLineOutOfRange => "non-vectored IRQ out of range"
  | .vectoredLineOutOfRange => "vectored IRQ out of range"
  | .noSlot => "IRQ has no vector slot"
  | .lineIdle => "IRQ not active"

/-- Goes on with a value, or stops at the fault found instead. -/
def checked {σ α : Type} : Except Fault α → EStateM Fault σ α
  | .ok value => pure value
  | .error fault => throw fault

/-! ### Checked bits -/

/-- The word whose only bit is that of `line`. -/
def lineBit (line : Nat) : Except Fault Word :=
  if line < 64 then .ok (1#64 <<< line) else .error .shiftOverflow

/-- The set that holds just `line`. -/
def LineSet.single (line : Nat) : Except Fault LineSet :=
  if line < 32 then .ok (1#32 <<< line) else .error .shiftOverflow

/-- Whether `line` is a member. -/
def LineSet.test (lines : LineSet) (line : Nat) : Except Fault Bool :=
  if line < 32 then .ok (lines.getLsbD line) else .error .lineBeyondSet

/-- The set with `line` put in or taken out. -/
def LineSet.put (lines : LineSet) (line : Nat) (member : Bool) : Except Fault LineSet :=
  if line < 32 then
    .ok (if member then lines ||| 1#32 <<< line else lines &&& ~~~(1#32 <<< line))
  else .error .lineBeyondSet

theorem lineBit_ok {line : Nat} (small : line < 64) : lineBit line = .ok (1#64 <<< line) :=
  if_pos small

theorem LineSet.test_ok {lines : LineSet} {line : Nat} (small : line < 32) :
    lines.test line = .ok (lines.getLsbD line) :=
  if_pos small

end VectoredInterrupts
