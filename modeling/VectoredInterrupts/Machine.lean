/-
**The machine.**

A machine is a register bank, a status register, and the trace of what happened. Code that runs on
it is a `Bus` step: it may read and write registers and the status word, log notices, and fault.
Each completed access is one event of the trace. A fault leaves the machine as it was when the
fault was raised.
-/

import VectoredInterrupts.Bank.Basic
import VectoredInterrupts.Status

namespace VectoredInterrupts

/-- A processor together with the controller's registers. -/
structure Machine (β γ : Type) where
  /-- The controller's registers. -/
  bank : β
  /-- The processor's status register. -/
  status : γ
  /-- Which notices are logged. -/
  verbosity : Verbosity
  /-- What happened so far, in order. -/
  trace : Array Event

/-- A step of code on the machine. -/
abbrev Bus (β γ : Type) := EStateM Fault (Machine β γ)

namespace Bus

variable {β γ α : Type}

/-- A step of the register bank alone. -/
def onBank (step : EStateM Fault β α) : Bus β γ α := fun machine =>
  match step machine.bank with
  | .ok value bank => .ok value { machine with bank }
  | .error fault bank => .error fault { machine with bank }

/-- Adds an event to the trace. -/
def record (event : Event) : Bus β γ Unit :=
  modify fun machine => { machine with trace := machine.trace.push event }

/-! ### Registers -/

variable [RegisterBank β]

/-- One read access. -/
def read (offset : Nat) : Bus β γ Word := do
  let value ← onBank (RegisterBank.read offset)
  record (.read offset value)
  return value

/-- One write access. -/
def write (offset : Nat) (value : Word) : Bus β γ Unit := do
  onBank (RegisterBank.write offset value)
  record (.wrote offset value)

/-! ### The log -/

omit [RegisterBank β]

/-- Runs a step only if the log admits a level. -/
def whenLogged (level : Level) (step : Bus β γ Unit) : Bus β γ Unit := do
  if (← get).verbosity.admits level then step

/-- Logs a notice. -/
def log (notice : Notice) : Bus β γ Unit := whenLogged notice.level (record (.logged notice))

/-- Turns a request down. -/
def refuse (reason : Refusal) : Bus β γ (Except Refusal α) := do
  log (.refused reason)
  return .error reason

/-! ### The status word -/

variable [StatusRegister γ]

/-- Reads the status word. -/
def readStatus : Bus β γ StatusWord := do
  let value := StatusRegister.value (← get).status
  record (.statusRead value)
  return value

/-- Writes the status word. -/
def writeStatus (value : StatusWord) : Bus β γ Unit := do
  modify fun machine => { machine with status := StatusRegister.write machine.status value }
  record (.statusWrote value)

/-- Lets IRQs through. -/
def enableIrq : Bus β γ Unit := do
  writeStatus ((← readStatus) &&& ~~~irqMask)

/-- Holds IRQs back. -/
def disableIrq : Bus β γ Unit := do
  writeStatus ((← readStatus) ||| irqMask)

/-- Lets FIQs through. -/
def enableFiq : Bus β γ Unit := do
  writeStatus ((← readStatus) &&& ~~~fiqMask)

/-- Holds FIQs back. -/
def disableFiq : Bus β γ Unit := do
  writeStatus ((← readStatus) ||| fiqMask)

/-- Whether IRQs are let through. -/
def irqEnabled : Bus β γ Bool := do
  return (← readStatus) &&& irqMask == 0

/-- Whether FIQs are let through. -/
def fiqEnabled : Bus β γ Bool := do
  return (← readStatus) &&& fiqMask == 0

end Bus

end VectoredInterrupts
