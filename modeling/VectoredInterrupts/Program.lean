/-
**Programs of handlers.**

A handler of the firmware is given by a program: a tree of actions, which goes on according to the
reply to each of them. Actions use the registers and the status word, call other handlers, or take a
nested interrupt; the tables are out of their reach. `Run.invoke` runs a handler. It is bounded by
the number of stack frames left, and interrupts nest at most as deeply as the firmware allows.
-/

import VectoredInterrupts.Dispatch

namespace VectoredInterrupts

/-! ### Requests to the machine -/

/-- An access to one register or to a whole set of lines. -/
inductive RegisterOp where
  | read (offset : Nat)
  | write (offset : Nat) (value : Word)
  | irqStatus
  | fiqStatus
  | rawStatus
  | select
  | setSelect (mask : Word)
  | enabledLines
  | enableLines (mask : Word)
  | disableLines (mask : Word)
  | softLines
  | raiseSoft (mask : Word)
  | clearSoft (mask : Word)
  | vector
  | acknowledge
  | defaultVector
  | setDefaultVector (address : Word)
  | slotAddress (slot : Nat)
  | setSlotAddress (slot : Nat) (address : Word)
  | slotControl (slot : Nat)
  | setSlotControl (slot : Nat) (control : Word)
  | peripheralId
deriving DecidableEq

/-- An operation on one line. -/
inductive LineOp where
  | enable (line : Nat)
  | disable (line : Nat)
  | isEnabled (line : Nat)
  | route (line : Nat)
  | setRoute (line : Nat) (target : Route)
  | raise (line : Nat)
  | clear (line : Nat)
deriving DecidableEq

/-- An operation on the status word. -/
inductive StatusOp where
  | read
  | write (value : StatusWord)
  | enableIrq
  | disableIrq
  | enableFiq
  | disableFiq
  | irqEnabled
  | fiqEnabled
deriving DecidableEq

section Requests

variable {β γ : Type}

/-- Carries out an access to the registers. -/
def RegisterOp.perform [RegisterBank β] : RegisterOp → Bus β γ Reply
  | .read offset => return .word (← Bus.read offset)
  | .write offset value => do Bus.write offset value; return .done
  | .irqStatus => return .bits (← Bus.irqStatus)
  | .fiqStatus => return .bits (← Bus.fiqStatus)
  | .rawStatus => return .bits (← Bus.rawStatus)
  | .select => return .word (← Bus.select)
  | .setSelect mask => do Bus.setSelect mask; return .done
  | .enabledLines => return .bits (← Bus.enabledLines)
  | .enableLines mask => do Bus.enableLines mask; return .done
  | .disableLines mask => do Bus.disableLines mask; return .done
  | .softLines => return .word (← Bus.softLines)
  | .raiseSoft mask => do Bus.raiseSoft mask; return .done
  | .clearSoft mask => do Bus.clearSoft mask; return .done
  | .vector => return .word (← Bus.vector)
  | .acknowledge => do Bus.acknowledge; return .done
  | .defaultVector => return .word (← Bus.defaultVector)
  | .setDefaultVector address => do Bus.setDefaultVector address; return .done
  | .slotAddress slot => return .word (← Bus.slotAddress slot)
  | .setSlotAddress slot address => do Bus.setSlotAddress slot address; return .done
  | .slotControl slot => return .word (← Bus.slotControl slot)
  | .setSlotControl slot control => do Bus.setSlotControl slot control; return .done
  | .peripheralId => return .bits (← Bus.peripheralId)

/-- Carries out an operation on one line. -/
def LineOp.perform [RegisterBank β] : LineOp → Bus β γ Reply
  | .enable line => return .ofResult (fun _ => .done) (← Bus.enableLine line)
  | .disable line => return .ofResult (fun _ => .done) (← Bus.disableLine line)
  | .isEnabled line => return .flag (← Bus.lineEnabled line)
  | .route line => return .route (← Bus.lineRoute line)
  | .setRoute line target => return .ofResult (fun _ => .done) (← Bus.setLineRoute line target)
  | .raise line => return .ofResult .number (← Bus.raiseLine line)
  | .clear line => return .ofResult .number (← Bus.clearLine line)

/-- Carries out an operation on the status word. -/
def StatusOp.perform [StatusRegister γ] : StatusOp → Bus β γ Reply
  | .read => return .bits (← Bus.readStatus)
  | .write value => do Bus.writeStatus value; return .done
  | .enableIrq => do Bus.enableIrq; return .done
  | .disableIrq => do Bus.disableIrq; return .done
  | .enableFiq => do Bus.enableFiq; return .done
  | .disableFiq => do Bus.disableFiq; return .done
  | .irqEnabled => return .flag (← Bus.irqEnabled)
  | .fiqEnabled => return .flag (← Bus.fiqEnabled)

end Requests

/-! ### Programs -/

/-- What a handler can do; `ι` lists the actions of a test bench. -/
inductive Action (ι : Type) where
  | register (op : RegisterOp)
  | line (op : LineOp)
  | status (op : StatusOp)
  /-- An action of the test bench. -/
  | bench (action : ι)
  /-- Calls a handler. -/
  | call (handler : Handler)
  /-- Takes a nested interrupt. -/
  | interrupt
  /-- Gives up. -/
  | fail

/-- A program: actions, and how it goes on after each reply. -/
inductive Program (ι : Type) where
  | finish
  | act (action : Action ι) (next : Reply → Program ι)

/-- The program that carries out a list of actions, whatever the replies. -/
def Program.ofList {ι : Type} : List (Action ι) → Program ι
  | [] => .finish
  | action :: rest => .act action fun _ => ofList rest

/-- The code of the firmware. -/
structure Firmware (ι : Type) where
  /-- The program of each handler that is not built in. -/
  program : Handler → Program ι
  /-- How many dispatches may be in progress at once. -/
  nesting : Nat

/-- Runs a program; `perform` carries out its actions. Each reply is an event of the trace. -/
def Program.run {ι β γ : Type} (perform : Action ι → Run β γ Reply) : Program ι → Run β γ Unit
  | .finish => return ()
  | .act action next => do
    let reply ← perform action
    Run.onMachine (Bus.record (.returned reply))
    (next reply).run perform

namespace Run

variable {ι β γ : Type} [RegisterBank β] [StatusRegister γ] [Benched ι β]

/-- Carries out an action while `active` dispatches are in progress. The handlers that it runs are
run by `call`, which is told how many dispatches are in progress then. An interrupt is taken only
inside a dispatch, and only up to the nesting bound. -/
def perform (nesting : Nat) (call : Nat → Handler → Run β γ Unit) (active : Nat) :
    Action ι → Run β γ Reply
  | .register op => onMachine op.perform
  | .line op => onMachine op.perform
  | .status op => onMachine op.perform
  | .bench action => onMachine (Bus.onBank (Benched.act action))
  | .call handler => do
    call active handler
    match handler with
    | .context number => return .number number
    | _ => return .done
  | .interrupt => do
    if 0 < active ∧ active < nesting then
      handleIrq call (active + 1)
      return .done
    else return .skipped
  | .fail => throw .handlerFailed

/-- Runs a handler with a number of stack frames left, while `active` dispatches are in progress. -/
def invoke (firmware : Firmware ι) : (frames active : Nat) → Handler → Run β γ Unit
  | 0, _, _ => throw .stackExhausted
  | frames + 1, active, handler =>
    match handler with
    | .routine .dummy | .spurious => onMachine (Bus.log .unhandled)
    | .routine .fallback => onMachine (Bus.log .strayFallback)
    | .routine (.user _) | .context _ => do
      onMachine (Bus.record (.entered handler))
      (firmware.program handler).run (perform firmware.nesting (invoke firmware frames) active)

end Run

end VectoredInterrupts
