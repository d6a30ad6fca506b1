/-
**The register map.**

Offsets are relative to the start of the controller's register block. Vector slot `k` has its
address register at `0x100 + 4 * k` and its control register at `0x200 + 4 * k`; the identification
registers close the block. `Register.ofOffset?` says which register an offset falls in: within the
three banks of word registers the last two bits of the offset are not looked at.
-/

import VectoredInterrupts.Word

namespace VectoredInterrupts

namespace Offset

/-- Lines requesting an IRQ, read only. -/
def irqStatus : Nat := 0x000

/-- Lines requesting an FIQ, read only. -/
def fiqStatus : Nat := 0x004

/-- Asserted lines before masking, read only. -/
def rawStatus : Nat := 0x008

/-- A set bit routes its line to FIQ. -/
def select : Nat := 0x00C

/-- Enabled lines; a written 1 enables. -/
def enable : Nat := 0x010

/-- A written 1 disables. Write only. -/
def enableClear : Nat := 0x014

/-- Software requests; a written 1 sets. -/
def soft : Nat := 0x018

/-- A written 1 withdraws a software request. Write only. -/
def softClear : Nat := 0x01C

/-- Protection enable. -/
def protection : Nat := 0x020

/-- The vector of the interrupt to be served; a read starts service and a write ends it. -/
def vector : Nat := 0x030

/-- The vector presented when no slot matches. -/
def defaultVector : Nat := 0x034

/-- Address register of slot 0. -/
def slotAddressBase : Nat := 0x100

/-- Control register of slot 0. -/
def slotControlBase : Nat := 0x200

/-- First peripheral identification register. -/
def peripheralId : Nat := 0xFE0

/-- First cell identification register. -/
def cellId : Nat := 0xFF0

/-- End of the register block. -/
def blockSize : Nat := 0x1000

/-- Address register of a slot. -/
def slotAddress (slot : Nat) : Nat := slotAddressBase + slot * 4

/-- Control register of a slot. -/
def slotControl (slot : Nat) : Nat := slotControlBase + slot * 4

end Offset

/-- Line number field of a slot's control register. -/
def controlLineMask : Word := 0x1F

/-- Enable bit of a slot's control register. -/
def controlEnable : Word := 0x20

/-- The word that ends service when it is written to the vector register. -/
def acknowledgement : Word := 0xFFFFFFFF

/-- Priorities keep their low 7 bits. -/
def priorityMask : Byte := 0x7F

/-- The registers of the block. -/
inductive Register where
  | irqStatus
  | fiqStatus
  | rawStatus
  | select
  | enable
  | enableClear
  | soft
  | softClear
  | protection
  | vector
  | defaultVector
  | slotAddress (slot : Fin 16)
  | slotControl (slot : Fin 16)
  | identification (index : Fin 8)
deriving DecidableEq

/-- The word of a bank of `count` word registers that an offset falls in. -/
def bankIndex? (base count offset : Nat) : Option (Fin count) :=
  if h : base ≤ offset ∧ offset < base + 4 * count then some ⟨(offset - base) / 4, by omega⟩
  else none

/-- The register at an offset, if there is one. -/
def Register.ofOffset? (offset : Nat) : Option Register :=
  if offset = Offset.irqStatus then some .irqStatus
  else if offset = Offset.fiqStatus then some .fiqStatus
  else if offset = Offset.rawStatus then some .rawStatus
  else if offset = Offset.select then some .select
  else if offset = Offset.enable then some .enable
  else if offset = Offset.enableClear then some .enableClear
  else if offset = Offset.soft then some .soft
  else if offset = Offset.softClear then some .softClear
  else if offset = Offset.protection then some .protection
  else if offset = Offset.vector then some .vector
  else if offset = Offset.defaultVector then some .defaultVector
  else match bankIndex? Offset.slotAddressBase 16 offset with
    | some slot => some (.slotAddress slot)
    | none => match bankIndex? Offset.slotControlBase 16 offset with
      | some slot => some (.slotControl slot)
      | none => (bankIndex? Offset.peripheralId 8 offset).map .identification

theorem Register.ofOffset?_slotAddress (slot : Fin 16) :
    Register.ofOffset? (Offset.slotAddress slot) = some (.slotAddress slot) := by
  revert slot
  decide

theorem Register.ofOffset?_slotControl (slot : Fin 16) :
    Register.ofOffset? (Offset.slotControl slot) = some (.slotControl slot) := by
  revert slot
  decide

end VectoredInterrupts
