/-
**The registers by name, and the operations on one line.**

A step for every register, one access each. Slot registers are checked against the number of slots
before they are touched. The operations on one line turn a line at or above 32 down; they use no
state but the registers, so a handler may run them while a dispatch is in progress.
-/

import VectoredInterrupts.Machine

namespace VectoredInterrupts

namespace Bus

variable {β γ : Type} [RegisterBank β]

/-! ### Lines -/

/-- Lines requesting an IRQ. -/
def irqStatus : Bus β γ LineSet := do
  return (← read Offset.irqStatus).lines

/-- Lines requesting an FIQ. -/
def fiqStatus : Bus β γ LineSet := do
  return (← read Offset.fiqStatus).lines

/-- Asserted lines, whether enabled or not. -/
def rawStatus : Bus β γ LineSet := do
  return (← read Offset.rawStatus).lines

/-- The select register: lines routed to FIQ. -/
def select : Bus β γ Word := read Offset.select

/-- Writes the select register. -/
def setSelect (mask : Word) : Bus β γ Unit := write Offset.select mask

/-- Enabled lines. -/
def enabledLines : Bus β γ LineSet := do
  return (← read Offset.enable).lines

/-- Enables the lines of a mask. -/
def enableLines (mask : Word) : Bus β γ Unit := write Offset.enable mask

/-- Disables the lines of a mask. -/
def disableLines (mask : Word) : Bus β γ Unit := write Offset.enableClear mask

/-- Software requests. -/
def softLines : Bus β γ Word := read Offset.soft

/-- Raises software requests on the lines of a mask. -/
def raiseSoft (mask : Word) : Bus β γ Unit := write Offset.soft mask

/-- Withdraws the software requests on the lines of a mask. -/
def clearSoft (mask : Word) : Bus β γ Unit := write Offset.softClear mask

/-! ### Vectors -/

/-- Reads the vector to be served, which starts service. -/
def vector : Bus β γ Word := read Offset.vector

/-- Ends service. -/
def acknowledge : Bus β γ Unit := write Offset.vector acknowledgement

/-- The default vector. -/
def defaultVector : Bus β γ Word := read Offset.defaultVector

/-- Sets the default vector. -/
def setDefaultVector (address : Word) : Bus β γ Unit := write Offset.defaultVector address

/-- Faults on a slot that the hardware does not have. -/
def checkSlot (slot : Nat) : Bus β γ Unit :=
  if slot < slotCount then pure () else throw .slotBeyondHardware

/-- The address register of a slot. -/
def slotAddress (slot : Nat) : Bus β γ Word := do
  checkSlot slot
  read (Offset.slotAddress slot)

/-- Writes the address register of a slot. -/
def setSlotAddress (slot : Nat) (address : Word) : Bus β γ Unit := do
  checkSlot slot
  write (Offset.slotAddress slot) address

/-- The control register of a slot. -/
def slotControl (slot : Nat) : Bus β γ Word := do
  checkSlot slot
  read (Offset.slotControl slot)

/-- Writes the control register of a slot. -/
def setSlotControl (slot : Nat) (control : Word) : Bus β γ Unit := do
  checkSlot slot
  write (Offset.slotControl slot) control

/-- The identification number: the low bytes of four registers, the first one lowest. -/
def peripheralId : Bus β γ (BitVec 32) :=
  [0, 1, 2, 3].foldlM
    (fun identity place => do
      let part ← read (Offset.peripheralId + place * 4)
      return identity ||| (part.lines &&& 0xFF) <<< (place * 8))
    0

/-- Logs the identification number. It is read only if the log admits the notice. -/
def announce : Bus β γ Unit :=
  whenLogged .debug do
    let identity ← peripheralId
    record (.logged (.ready identity))

/-! ### Operations on one line -/

/-- Enables a line. -/
def enableLine (line : Nat) : Bus β γ (Except Refusal Unit) := do
  if line < lineCount then
    enableLines (← checked (lineBit line))
    return .ok ()
  else refuse .lineOutOfRange

/-- Disables a line. -/
def disableLine (line : Nat) : Bus β γ (Except Refusal Unit) := do
  if line < lineCount then
    disableLines (← checked (lineBit line))
    return .ok ()
  else refuse .lineOutOfRange

/-- Whether a line is enabled. A line that does not exist is not. -/
def lineEnabled (line : Nat) : Bus β γ Bool := do
  if line < lineCount then
    checked ((← enabledLines).test line)
  else return false

/-- How a line is routed, if it exists. -/
def lineRoute (line : Nat) : Bus β γ (Option Route) := do
  if line < lineCount then
    let mask ← select
    if mask &&& (← checked (lineBit line)) ≠ 0 then return some .fiq
    else return some .irq
  else return none

/-- Routes a line. The other lines stay as they are. -/
def setLineRoute (line : Nat) (route : Route) : Bus β γ (Except Refusal Unit) := do
  if line < lineCount then
    let mask ← select
    let bit ← checked (lineBit line)
    match route with
    | .irq => setSelect (mask &&& ~~~bit)
    | .fiq => setSelect (mask ||| bit)
    return .ok ()
  else refuse .lineOutOfRange

/-- Raises a software request on a line. -/
def raiseLine (line : Nat) : Bus β γ (Except Refusal Nat) := do
  if line < lineCount then
    raiseSoft (← checked (lineBit line))
    return .ok line
  else refuse .lineOutOfRange

/-- Withdraws the software request on a line, provided the line is asserted. -/
def clearLine (line : Nat) : Bus β γ (Except Refusal Nat) := do
  if line < lineCount then
    if ← checked ((← rawStatus).test line) then
      clearSoft (← checked (lineBit line))
      return .ok line
    else refuse .lineIdle
  else refuse .lineOutOfRange

end Bus

end VectoredInterrupts
