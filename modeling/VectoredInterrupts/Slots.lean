/-
**Vector slots.**

How the firmware keeps table entries in the hardware's vector slots. A slot that serves a line holds
the line and the enable bit in its control register, and the routine in its address register; a slot
that serves none is disabled, at the dummy routine. The control register is written first.
-/

import VectoredInterrupts.Registers
import VectoredInterrupts.Table.Basic

namespace VectoredInterrupts

/-- The control word of a slot that serves a line. -/
def slotControlOf (line : Nat) : Word :=
  BitVec.ofNat 64 line &&& controlLineMask ||| controlEnable

namespace Bus

variable {β γ : Type} [RegisterBank β]

/-- Puts an entry into the vector slot of its place, if that place has one. A vacant entry leaves
the slot disabled, at the dummy routine. -/
def loadSlot (index : Nat) (entry : Entry Routine) : Bus β γ Unit :=
  if index < slotCount then
    match entry.line with
    | some line => do
      setSlotControl index (slotControlOf line)
      setSlotAddress index entry.payload.address
    | none => do
      setSlotControl index 0
      setSlotAddress index Routine.dummy.address
  else pure ()

/-- Enables a slot. -/
def enableSlot (slot : Nat) : Bus β γ Unit := do
  setSlotControl slot ((← slotControl slot) ||| controlEnable)

/-- Disables a slot. -/
def disableSlot (slot : Nat) : Bus β γ Unit := do
  setSlotControl slot ((← slotControl slot) &&& ~~~controlEnable)

end Bus

end VectoredInterrupts
