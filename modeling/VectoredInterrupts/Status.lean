/-
**The processor's status word.**

Bit 7 of the status word masks the delivery of IRQs, bit 6 that of FIQs. Two kinds of status
register are modelled: one of which only the low byte can be written, as on the processor, and one
of which every bit can.
-/

import VectoredInterrupts.Word

namespace VectoredInterrupts

/-- Masks IRQ delivery when set. -/
def irqMask : StatusWord := 0x80

/-- Masks FIQ delivery when set. -/
def fiqMask : StatusWord := 0x40

/-- A register that holds a status word. -/
class StatusRegister (γ : Type) where
  /-- The word it holds. -/
  value : γ → StatusWord
  /-- The register after a word was written to it. -/
  write : γ → StatusWord → γ

/-- A status register of which only the control field, the low byte, can be written. -/
structure ControlField where
  word : StatusWord
deriving DecidableEq

namespace ControlField

/-- Supervisor mode with both kinds of interrupt masked. -/
def afterReset : ControlField := ⟨0x13 ||| irqMask ||| fiqMask⟩

instance : StatusRegister ControlField where
  value := ControlField.word
  write register value := ⟨register.word &&& ~~~0xFF ||| value &&& 0xFF⟩

end ControlField

/-- A status register of which every bit can be written. -/
structure OpenStatus where
  word : StatusWord
deriving DecidableEq

instance : StatusRegister OpenStatus where
  value := OpenStatus.word
  write _ value := ⟨value⟩

end VectoredInterrupts
