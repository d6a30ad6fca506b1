/-
**Register banks.**

A bank is anything that answers reads and writes at offsets of the controller's register block. An
access may change the bank, and may fault.
-/

import VectoredInterrupts.Fault
import VectoredInterrupts.RegisterMap
import VectoredInterrupts.Reply

namespace VectoredInterrupts

/-- A register block. -/
class RegisterBank (β : Type) where
  /-- One read access. -/
  read : Nat → EStateM Fault β Word
  /-- One write access. -/
  write : Nat → Word → EStateM Fault β Unit

/-- A register block that a test bench acts on from outside the bus, in the ways listed by `ι`. -/
class Benched (ι β : Type) where
  /-- Carries out one action of the bench. -/
  act : ι → EStateM Fault β Reply

/-- A bank that no bench acts on. -/
instance {β : Type} : Benched Empty β := ⟨fun action => nomatch action⟩

end VectoredInterrupts
