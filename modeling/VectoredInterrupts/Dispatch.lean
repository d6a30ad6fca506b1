/-
**Dispatch.**

`Run.handleIrq call active` serves the pending interrupt as the `active`-th dispatch in progress;
`call active` runs a handler. It never refuses: what no handler claims goes to the dummy routine and
counts as spurious.

* In polled mode the lines requesting an IRQ are read once, and every handler of one of them runs,
  the most urgent first.
* In vectored mode the vector is read once, which starts service. The routine there runs, and a
  write to the vector register ends service. The marker of the default vector stands for the first
  binding past the slots whose line is enabled.
-/

import VectoredInterrupts.System

namespace VectoredInterrupts

namespace Run

variable {β γ : Type}

/-- Counts a spurious interrupt. -/
def countSpurious : Run β γ Unit :=
  modify fun system => { system with spurious := system.spurious + 1 }

/-- Runs the handlers of the lines in `status`, up to the first vacant entry, and counts them. -/
def serviceEntries (serve : Handler → Run β γ Unit) (status : LineSet) :
    List (Entry Handler) → Run β γ Nat
  | [] => return 0
  | entry :: rest =>
    match entry.line with
    | none => return 0
    | some line => do
      if ← checked (status.test line) then
        serve entry.payload
        return (← serviceEntries serve status rest) + 1
      else serviceEntries serve status rest

/-- Runs the handlers bound to the lines in `status`, the most urgent first, and counts them. -/
def servicePolled (serve : Handler → Run β γ Unit) (status : LineSet) : Run β γ Nat := do
  serviceEntries serve status (← get).polled.toList

variable [RegisterBank β]

/-- The line and the routine of an entry that binds an enabled line. -/
def enabledBinding? (enabled : LineSet) (entry : Entry Routine) : Option (Nat × Routine) :=
  match entry.line with
  | some line =>
    if line < lineCount ∧ enabled.getLsbD line then some (line, entry.payload) else none
  | none => none

/-- Runs the routine of the first entry past the slots whose line is enabled. False if there is
none. -/
def serviceUnslotted (serve : Handler → Run β γ Unit) : Run β γ Bool := do
  let enabled ← onMachine Bus.enabledLines
  match ((← get).vectored.toList.drop slotCount).findSome? (enabledBinding? enabled) with
  | some (line, routine) =>
    onMachine (Bus.log (.servingUnslotted line))
    serve (.routine routine)
    return true
  | none => return false

/-- Serves a spurious interrupt. -/
def serveSpurious (serve : Handler → Run β γ Unit) (handler : Handler) : Run β γ Unit := do
  countSpurious
  serve handler

/-- One dispatch in polled mode. -/
def handlePolled (serve : Handler → Run β γ Unit) : Run β γ Unit := do
  let status ← onMachine Bus.irqStatus
  onMachine (Bus.log (.polledStatus status))
  if (← servicePolled serve status) = 0 then serveSpurious serve .spurious

/-- Serves the interrupt whose vector is `vector`. -/
def serveVector (serve : Handler → Run β γ Unit) (vector : Word) : Run β γ Unit :=
  match Routine.ofAddress? vector with
  | some .fallback => do
    unless ← serviceUnslotted serve do serveSpurious serve (.routine .dummy)
  | some .dummy => serveSpurious serve (.routine .dummy)
  | some routine => serve (.routine routine)
  | none => do
    onMachine (Bus.log .nullVector)
    serveSpurious serve (.routine .dummy)

/-- One dispatch in vectored mode. A vector other than zero has to be the address of a routine. -/
def handleVectored (serve : Handler → Run β γ Unit) : Run β γ Unit := do
  let vector ← onMachine Bus.vector
  if vector ≠ 0 ∧ Routine.ofAddress? vector = none then throw .notARoutine
  onMachine (Bus.log (.vectorRead vector))
  serveVector serve vector
  onMachine Bus.acknowledge

/-- Hands an interrupt to a handler, which the trace shows. -/
def dispatch (call : Nat → Handler → Run β γ Unit) (active : Nat) (handler : Handler) :
    Run β γ Unit := do
  onMachine (Bus.record (.dispatched active handler))
  call active handler

/-- Serves the pending interrupt, when it makes `active` dispatches in progress. -/
def handleIrq (call : Nat → Handler → Run β γ Unit) (active : Nat) : Run β γ Unit := do
  match (← get).mode with
  | .polled => handlePolled (dispatch call active)
  | .vectored => handleVectored (dispatch call active)

end Run

end VectoredInterrupts
