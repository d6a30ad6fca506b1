/-
**The interrupt system.**

A system is a machine with the tables of the interrupt controller's firmware: the *polled* table,
which is searched by software, and the *vectored* table, whose first 16 places are kept in the
hardware's vector slots. Code of the firmware is a `Run` step. It may use every step of the machine,
the tables, the dispatch mode and the count of spurious interrupts.
-/

import VectoredInterrupts.Slots

namespace VectoredInterrupts

/-- Where a dispatch looks for handlers. -/
inductive Mode where
  /-- In the polled table, for the lines that request an IRQ. -/
  | polled
  /-- At the vector that the controller presents. -/
  | vectored
deriving DecidableEq

/-- A machine with the controller's firmware state. -/
structure System (β γ : Type) where
  machine : Machine β γ
  /-- Handlers found by searching. -/
  polled : Table Handler
  /-- Routines found by vector. -/
  vectored : Table Routine
  mode : Mode
  /-- Dispatches that found nobody to serve. -/
  spurious : Nat

/-- A system that has not been set up yet: both tables are vacant. -/
def System.fresh {β γ : Type} (machine : Machine β γ) : System β γ where
  machine := machine
  polled := .vacant
  vectored := .vacant
  mode := .polled
  spurious := 0

/-- A step of the firmware. -/
abbrev Run (β γ : Type) := EStateM Fault (System β γ)

namespace Run

variable {β γ α : Type}

/-- A step of the machine alone. -/
def onMachine (step : Bus β γ α) : Run β γ α := fun system =>
  match step system.machine with
  | .ok value machine => .ok value { system with machine }
  | .error fault machine => .error fault { system with machine }

/-! ### The polled table -/

/-- Binds a handler to a line, behind the bindings of at least its priority. Only the low 7 bits of
the priority count. -/
def bindPolled (line : Nat) (handler : Handler) (priority : Byte) :
    Run β γ (Except Refusal Nat) := do
  if line < lineCount then
    let priority := priority &&& priorityMask
    let table := (← get).polled
    let update := table.insert (.binding line priority handler)
    modify fun system => { system with polled := table.apply update.writes }
    let position ← checked update.answer
    onMachine (Bus.log (.polledBound line position priority))
    return .ok position
  else onMachine (Bus.refuse .polledLineOutOfRange)

/-- Gives up the handler of a line, if it has one. -/
def releasePolled (line : Nat) : Run β γ Unit := do
  let table := (← get).polled
  let update := table.remove line
  modify fun system => { system with polled := table.apply update.writes }
  match ← checked update.answer with
  | some position => onMachine (Bus.log (.polledReleased line position))
  | none => return ()

/-- Gives up every handler. -/
def clearPolled : Run β γ Unit :=
  modify fun system => { system with polled := system.polled.apply Table.clearWrites }

/-! ### The vectored table -/

variable [RegisterBank β]

/-- Makes one write to the vectored table, and to the slot of its place. -/
def writeVectored (write : Write Routine) : Run β γ Unit := do
  modify fun system => { system with vectored := system.vectored.write write }
  onMachine (Bus.loadSlot write.index write.entry)

/-- Carries out an operation on the vectored table. -/
def updateVectored (update : Update Routine α) : Run β γ α := do
  update.writes.forM writeVectored
  checked update.answer

/-- Binds a routine to a line, behind the bindings of at least its priority. Only the low 7 bits of
the priority count. Every slot whose entry is written is enabled or vacated along with it. -/
def bindVectored (line : Nat) (routine : Routine) (priority : Byte) :
    Run β γ (Except Refusal Nat) := do
  if line < lineCount then
    let priority := priority &&& priorityMask
    let position ← updateVectored ((← get).vectored.insert (.binding line priority routine))
    onMachine (Bus.log (.vectoredBound line position priority))
    return .ok position
  else onMachine (Bus.refuse .vectoredLineOutOfRange)

/-- Gives up the routine of a line, if it has one. -/
def releaseVectored (line : Nat) : Run β γ Unit := do
  match ← updateVectored ((← get).vectored.remove line) with
  | some position => onMachine (Bus.log (.vectoredReleased line position))
  | none => return ()

/-- Vacates the vectored table and every slot. -/
def clearVectored : Run β γ Unit := updateVectored Table.clear

/-- Gives up every routine. -/
def releaseAllVectored : Run β γ Unit := do
  clearVectored
  onMachine (Bus.log .vectoredCleared)

/-! ### Slots -/

/-- The slots that serve a line. -/
def slotsOf (table : Table Routine) (line : Nat) : List Nat :=
  (List.range slotCount).filter fun slot => (table.get slot).line == some line

/-- Enables the slot of a line, and returns it. The table stays as it is. -/
def enableSlotOf (line : Nat) : Run β γ (Except Refusal Nat) := do
  let slots := slotsOf (← get).vectored line
  slots.forM fun slot => onMachine (Bus.enableSlot slot)
  match slots.head? with
  | some slot => return .ok slot
  | none => onMachine (Bus.refuse .noSlot)

/-- Disables the slot of a line, if it has one. -/
def disableSlotOf (line : Nat) : Run β γ Unit := do
  (slotsOf (← get).vectored line).forM fun slot => onMachine (Bus.disableSlot slot)

/-- Disables every slot. -/
def disableAllSlots : Run β γ Unit :=
  (List.range slotCount).forM fun slot => onMachine (Bus.disableSlot slot)

/-! ### Setting up -/

/-- Puts the controller into its clean state: all lines disabled and routed to IRQ, no software
requests, every slot vacated, both tables vacant, polled dispatch, no spurious interrupts. -/
def init : Run β γ Unit := do
  onMachine (Bus.setSelect 0)
  onMachine (Bus.disableLines allLines)
  onMachine (Bus.clearSoft allLines)
  onMachine (Bus.setDefaultVector Routine.fallback.address)
  clearVectored
  clearPolled
  modify fun system => { system with mode := .polled, spurious := 0 }
  onMachine Bus.announce

/-- Chooses where dispatches look for handlers. -/
def setMode (mode : Mode) : Run β γ Unit := modify fun system => { system with mode }

end Run

end VectoredInterrupts
