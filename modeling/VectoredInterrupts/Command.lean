/-
**Commands.**

A command is one request to a system: an action of the kind handlers carry out, an operation on the
controller's firmware state, or a scope that runs other commands with IRQs held back. A scope reads
the status word first and writes it back at the end, whatever its body did to it; a fault in the
body ends the scope without that write.

Some operations of the controller's firmware use nothing of its state (`DirectOp`). Each of them is
short for an action.
-/

import VectoredInterrupts.Board
import VectoredInterrupts.Program

namespace VectoredInterrupts

namespace Run

variable {β γ α : Type} [StatusRegister γ]

/-- Runs a body with IRQs held back, then restores the status word. -/
def withoutIrq (body : Run β γ α) : Run β γ α := do
  let saved ← onMachine Bus.readStatus
  onMachine (Bus.writeStatus (saved ||| irqMask))
  let result ← body
  onMachine (Bus.writeStatus saved)
  return result

/-- Runs a body of the controller's firmware with IRQs held back, then restores the status word.
The mask is set in the status word as it is read once more. -/
def masked (body : Run β γ α) : Run β γ α := do
  let saved ← onMachine Bus.readStatus
  onMachine Bus.disableIrq
  let result ← body
  onMachine (Bus.writeStatus saved)
  return result

end Run

/-- An operation on the controller's firmware state. -/
inductive Operation where
  | init
  | setMode (mode : Mode)
  | handleIrq
  | bindPolled (line : Nat) (handler : Handler) (priority : Byte)
  | releasePolled (line : Nat)
  | clearPolled
  | servicePolled (status : LineSet)
  | polledPosition (line : Nat)
  | bindVectored (line : Nat) (routine : Routine) (priority : Byte)
  | releaseVectored (line : Nat)
  | releaseAllVectored
  | clearVectored
  | serviceUnslotted
  | vectoredPosition (line : Nat)
  | enableSlot (line : Nat)
  | disableSlot (line : Nat)
  | disableAllSlots
deriving DecidableEq

/-- Carries out an operation; `call` runs a handler while the given number of dispatches are in
progress. -/
def Operation.perform {β γ : Type} [RegisterBank β] (call : Nat → Handler → Run β γ Unit) :
    Operation → Run β γ Reply
  | .init => do Run.init; return .done
  | .setMode mode => do Run.setMode mode; return .done
  | .handleIrq => do Run.handleIrq call 1; return .done
  | .bindPolled line handler priority =>
    return .ofResult .number (← Run.bindPolled line handler priority)
  | .releasePolled line => do Run.releasePolled line; return .done
  | .clearPolled => do Run.clearPolled; return .done
  | .servicePolled status => return .number (← Run.servicePolled (call 0) status)
  | .polledPosition line => return .position ((← get).polled.position line)
  | .bindVectored line routine priority =>
    return .ofResult .number (← Run.bindVectored line routine priority)
  | .releaseVectored line => do Run.releaseVectored line; return .done
  | .releaseAllVectored => do Run.releaseAllVectored; return .done
  | .clearVectored => do Run.clearVectored; return .done
  | .serviceUnslotted => return .flag (← Run.serviceUnslotted (call 0))
  | .vectoredPosition line => return .position ((← get).vectored.position line)
  | .enableSlot line => return .ofResult .number (← Run.enableSlotOf line)
  | .disableSlot line => do Run.disableSlotOf line; return .done
  | .disableAllSlots => do Run.disableAllSlots; return .done

/-- An operation of the controller's firmware that uses nothing of its state. -/
inductive DirectOp where
  | disableAllLines
  /-- Makes a routine the default vector, in place of the search past the slots. -/
  | setDefaultRoutine (routine : Routine)
  /-- Raises a software request on the line that the board reserves for them. -/
  | raiseSoftware
  | clearSoftware
  /-- Lets IRQs through. -/
  | enableIrq
  /-- Holds IRQs back. -/
  | disableIrq
deriving DecidableEq

/-- The action that such an operation is short for. -/
def DirectOp.action {ι : Type} : DirectOp → Action ι
  | .disableAllLines => .register (.disableLines allLines)
  | .setDefaultRoutine routine => .register (.setDefaultVector routine.address)
  | .raiseSoftware => .line (.raise Board.Device.software.line)
  | .clearSoftware => .line (.clear Board.Device.software.line)
  | .enableIrq => .status .enableIrq
  | .disableIrq => .status .disableIrq

/-- A request to a system. -/
inductive Command (ι : Type) where
  | action (request : Action ι)
  | operation (op : Operation)
  /-- Commands with IRQs held back by the processor. -/
  | withoutIrq (body : List (Command ι))
  /-- Commands with IRQs held back by the controller's firmware. -/
  | masked (body : List (Command ι))

/-- What a command returns: a reply, or the answers of the commands in a scope. -/
inductive Answer where
  | reply (value : Reply)
  | scope (answers : List Answer)

namespace Command

variable {ι β γ : Type} [RegisterBank β] [StatusRegister γ] [Benched ι β]

mutual

/-- Carries out a command outside of any dispatch, with a number of stack frames for handlers. -/
def run (firmware : Firmware ι) (frames : Nat) : Command ι → Run β γ Answer
  | .action request =>
    return .reply (← Run.perform firmware.nesting (Run.invoke firmware frames) 0 request)
  | .operation op => return .reply (← op.perform (Run.invoke firmware frames))
  | .withoutIrq body => return .scope (← Run.withoutIrq (runAll firmware frames body))
  | .masked body => return .scope (← Run.masked (runAll firmware frames body))

/-- Carries out commands one after another. -/
def runAll (firmware : Firmware ι) (frames : Nat) : List (Command ι) → Run β γ (List Answer)
  | [] => return []
  | command :: rest => do
    let answer ← command.run firmware frames
    return answer :: (← runAll firmware frames rest)

end

/-- What a command returns, or the fault that stops it, and the system it leaves either way. -/
def attempt (firmware : Firmware ι) (frames : Nat) (command : Command ι) (system : System β γ) :
    Except Fault Answer × System β γ :=
  match command.run firmware frames system with
  | .ok answer after => (.ok answer, after)
  | .error fault after => (.error fault, after)

/-- The system after a sequence of commands. It goes on after a command that faults. -/
def session (firmware : Firmware ι) (frames : Nat) (commands : List (Command ι))
    (system : System β γ) : System β γ :=
  commands.foldl (fun system command => (command.attempt firmware frames system).2) system

end Command

end VectoredInterrupts
