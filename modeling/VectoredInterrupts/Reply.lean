/-
**Replies, notices and events.**

A step leaves a trace of events: the register and status accesses it completed, the notices it
logged, the handlers it ran, and the replies its programs received. A notice has a level, and is
logged only if the log admits that level.
-/

import VectoredInterrupts.Fault
import VectoredInterrupts.Routine

namespace VectoredInterrupts

/-- The kind of exception a line raises. -/
inductive Route where
  | irq
  | fiq
deriving DecidableEq

/-- What a request returns. -/
inductive Reply where
  /-- The request is carried out. -/
  | done
  /-- The request does not apply now, and nothing happened. -/
  | skipped
  /-- A register value. -/
  | word (value : Word)
  /-- A set of lines, a status word or an identification number. -/
  | bits (value : BitVec 32)
  /-- A position, a slot, a line or a count. -/
  | number (value : Nat)
  | flag (value : Bool)
  /-- How a line is routed, if it exists. -/
  | route (value : Option Route)
  /-- Where a line is bound, if it is. -/
  | position (value : Option Nat)
  /-- The request is turned down. -/
  | refused (reason : Refusal)
deriving DecidableEq

/-- The reply to a request that may be turned down. -/
def Reply.ofResult {α : Type} (accept : α → Reply) : Except Refusal α → Reply
  | .ok value => accept value
  | .error reason => .refused reason

/-! ### The log -/

/-- The level of a notice. -/
inductive Level where
  | warn
  | debug
  | trace
deriving DecidableEq

/-- The highest level the log admits. -/
inductive Verbosity where
  | off
  | error
  | warn
  | info
  | debug
  | trace
deriving DecidableEq

/-- Whether a log admits notices of a level. -/
def Verbosity.admits : Verbosity → Level → Bool
  | .off, _ | .error, _ => false
  | .warn, level | .info, level => level == .warn
  | .debug, level => level != .trace
  | .trace, _ => true

/-- What is written to the log. -/
inductive Notice where
  | refused (reason : Refusal)
  /-- An interrupt that nobody claims was served. -/
  | unhandled
  /-- The marker of the default vector was called like a routine. -/
  | strayFallback
  /-- The controller presented address zero. -/
  | nullVector
  | polledBound (line position : Nat) (priority : Byte)
  | polledReleased (line position : Nat)
  | vectoredBound (line position : Nat) (priority : Byte)
  | vectoredReleased (line position : Nat)
  | vectoredCleared
  /-- The controller is in its clean state; `identity` is its identification number. -/
  | ready (identity : BitVec 32)
  /-- A polled dispatch starts with these lines requesting. -/
  | polledStatus (lines : LineSet)
  /-- A vectored dispatch starts with this vector. -/
  | vectorRead (vector : Word)
  /-- The default vector leads to the binding of a line without a slot. -/
  | servingUnslotted (line : Nat)
deriving DecidableEq

/-- The level of each notice. -/
def Notice.level : Notice → Level
  | .refused _ | .unhandled | .strayFallback | .nullVector => .warn
  | .polledBound .. | .polledReleased .. | .vectoredBound .. | .vectoredReleased ..
  | .vectoredCleared | .ready _ => .debug
  | .polledStatus _ | .vectorRead _ | .servingUnslotted _ => .trace

/-- The wording of each notice. -/
def Notice.text : Notice → String
  | .refused reason => "[AxError::" ++ reason.kind.name ++ "] " ++ reason.text
  | .unhandled => "unhandled interrupt, dummy ISR invoked"
  | .strayFallback => "default vector reached outside of the dispatcher"
  | .nullVector => "VIC presented a null vector"
  | .polledBound line position priority =>
    "non-vectored IRQ " ++ toString line ++ " registered at " ++ toString position ++
      " with priority " ++ toString priority.toNat
  | .polledReleased line position =>
    "non-vectored IRQ " ++ toString line ++ " unregistered from " ++ toString position
  | .vectoredBound line position priority =>
    "vectored IRQ " ++ toString line ++ " registered at " ++ toString position ++
      " with priority " ++ toString priority.toNat
  | .vectoredReleased line position =>
    "vectored IRQ " ++ toString line ++ " unregistered from " ++ toString position
  | .vectoredCleared => "all vectored IRQs unregistered"
  | .ready identity => "VIC " ++ hex identity.toNat ++ " initialized"
  | .polledStatus lines => "non-vectored IRQ, status " ++ hex lines.toNat
  | .vectorRead vector => "vectored IRQ, vector " ++ vector.render
  | .servingUnslotted line => "default vector serving IRQ Some(" ++ toString line ++ ")"

/-! ### Events -/

/-- What a step did. -/
inductive Event where
  /-- A completed register read. -/
  | read (offset : Nat) (value : Word)
  /-- A completed register write. -/
  | wrote (offset : Nat) (value : Word)
  /-- The status word was read. -/
  | statusRead (value : StatusWord)
  /-- The status word was written. -/
  | statusWrote (value : StatusWord)
  | logged (notice : Notice)
  /-- An interrupt is handed to a handler, while `active` dispatches are in progress. -/
  | dispatched (active : Nat) (handler : Handler)
  /-- A handler of the firmware starts. -/
  | entered (handler : Handler)
  /-- A handler's program receives a reply. -/
  | returned (reply : Reply)
deriving DecidableEq

end VectoredInterrupts
