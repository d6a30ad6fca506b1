/-
**The simulated controller.**

A register block held in memory, with the side effects of the hardware: enable and software
registers set the bits written as 1 and have clear registers beside them, a read of the vector
register starts service and a write to it ends service. Request lines are driven by a test bench.

* A line *requests an IRQ* when it is asserted, enabled and not routed to FIQ.
* The vector presented is the address of the lowest numbered slot that is enabled and whose line
  requests an IRQ, and the default vector when there is none.
-/

import VectoredInterrupts.Bank.Basic

namespace VectoredInterrupts

/-- A vector slot. -/
structure Slot where
  /-- The control register: line number and enable bit. -/
  control : Word
  /-- The address register. -/
  address : Word
deriving DecidableEq

namespace Slot

/-- A slot after power-up. -/
def blank : Slot := ⟨0, 0⟩

instance : Inhabited Slot := ⟨blank⟩

/-- The line a slot serves. -/
def line (slot : Slot) : Nat := (slot.control &&& controlLineMask).toNat

/-- Whether a slot is enabled. -/
def isEnabled (slot : Slot) : Bool := slot.control &&& controlEnable != 0

end Slot

/-- A controller held in memory. -/
structure Simulated where
  /-- Lines asserted by peripherals. -/
  inputs : LineSet
  /-- Lines asserted by software. -/
  soft : LineSet
  /-- Lines enabled. -/
  enabled : LineSet
  /-- Lines routed to FIQ. -/
  select : LineSet
  protection : Word
  defaultVector : Word
  slots : Vector Slot 16
  /-- Vectors read whose service has not ended. -/
  inService : Nat
  /-- Reads of the vector register. -/
  vectorReads : Nat
  /-- Writes of the vector register. -/
  acknowledgements : Nat
deriving DecidableEq

namespace Simulated

/-- The controller after power-up. -/
def powerUp : Simulated where
  inputs := 0
  soft := 0
  enabled := 0
  select := 0
  protection := 0
  defaultVector := 0
  slots := Vector.replicate 16 Slot.blank
  inService := 0
  vectorReads := 0
  acknowledgements := 0

instance : Inhabited Simulated := ⟨powerUp⟩

/-- Lines asserted by a peripheral or by software. -/
def asserted (controller : Simulated) : LineSet := controller.inputs ||| controller.soft

/-- Lines that request an IRQ. -/
def irqStatus (controller : Simulated) : LineSet :=
  controller.asserted &&& controller.enabled &&& ~~~controller.select

/-- Lines that request an FIQ. -/
def fiqStatus (controller : Simulated) : LineSet :=
  controller.asserted &&& controller.enabled &&& controller.select

/-- Whether a slot competes for service. -/
def presents (controller : Simulated) (slot : Slot) : Bool :=
  slot.isEnabled && controller.irqStatus.getLsbD slot.line

/-- The vector presented to the processor. -/
def currentVector (controller : Simulated) : Word :=
  match controller.slots.toList.find? controller.presents with
  | some slot => slot.address
  | none => controller.defaultVector

/-- The identification registers: part, designer and revision, then the cell. -/
def identification : Vector Word 8 := #v[0x90, 0x11, 0x04, 0x00, 0x0D, 0xF0, 0x05, 0xB1]

/-- The slot `index` after a change. -/
def modifySlot (controller : Simulated) (index : Fin 16) (change : Slot → Slot) : Simulated :=
  { controller with slots := controller.slots.set index (change controller.slots[index]) }

/-- A read access. -/
def read (offset : Nat) : EStateM Fault Simulated Word := fun controller =>
  match Register.ofOffset? offset with
  | some .irqStatus => .ok controller.irqStatus.word controller
  | some .fiqStatus => .ok controller.fiqStatus.word controller
  | some .rawStatus => .ok controller.asserted.word controller
  | some .select => .ok controller.select.word controller
  | some .enable => .ok controller.enabled.word controller
  | some .soft => .ok controller.soft.word controller
  | some .protection => .ok controller.protection controller
  | some .vector =>
    .ok controller.currentVector
      { controller with
        vectorReads := controller.vectorReads + 1
        inService := controller.inService + 1 }
  | some .defaultVector => .ok controller.defaultVector controller
  | some (.slotAddress index) => .ok controller.slots[index].address controller
  | some (.slotControl index) => .ok controller.slots[index].control controller
  | some (.identification index) => .ok identification[index] controller
  | some .enableClear | some .softClear | none => .error (.unsupportedRead offset) controller

/-- A write access. -/
def write (offset : Nat) (value : Word) : EStateM Fault Simulated Unit := fun controller =>
  match Register.ofOffset? offset with
  | some .select => .ok () { controller with select := value.lines }
  | some .enable => .ok () { controller with enabled := controller.enabled ||| value.lines }
  | some .enableClear => .ok () { controller with enabled := controller.enabled &&& ~~~value.lines }
  | some .soft => .ok () { controller with soft := controller.soft ||| value.lines }
  | some .softClear => .ok () { controller with soft := controller.soft &&& ~~~value.lines }
  | some .protection => .ok () { controller with protection := value &&& 1 }
  | some .vector =>
    .ok ()
      { controller with
        acknowledgements := controller.acknowledgements + 1
        inService := controller.inService - 1 }
  | some .defaultVector => .ok () { controller with defaultVector := value }
  | some (.slotAddress index) =>
    .ok () (controller.modifySlot index fun slot => { slot with address := value })
  | some (.slotControl index) =>
    .ok () (controller.modifySlot index fun slot =>
      { slot with control := value &&& (controlEnable ||| controlLineMask) })
  | some .irqStatus | some .fiqStatus | some .rawStatus | some (.identification _) | none =>
    .error (.unsupportedWrite offset) controller

instance : RegisterBank Simulated := ⟨read, write⟩

/-! ### The bench -/

/-- What a test bench does to the simulated controller. -/
inductive BenchAction where
  /-- Asserts the input of a line. -/
  | raise (line : Nat)
  /-- Deasserts the input of a line. -/
  | lower (line : Nat)
  | vectorReads
  | acknowledgements
  | inService
deriving DecidableEq

/-- Drives the input of a line. -/
def drive (line : Nat) (level : Bool) : EStateM Fault Simulated Unit := fun controller =>
  match controller.inputs.put line level with
  | .ok inputs => .ok () { controller with inputs }
  | .error fault => .error fault controller

/-- One action of the bench. -/
def bench : BenchAction → EStateM Fault Simulated Reply
  | .raise line => do drive line true; return .done
  | .lower line => do drive line false; return .done
  | .vectorReads => return .number (← get).vectorReads
  | .acknowledgements => return .number (← get).acknowledgements
  | .inService => return .number (← get).inService

instance : Benched BenchAction Simulated := ⟨bench⟩

end Simulated

end VectoredInterrupts
