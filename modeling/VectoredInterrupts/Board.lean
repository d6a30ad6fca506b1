/-
**The baseboard.**

Where the controller's register block lies on the board, and which device drives which line.
-/

import VectoredInterrupts.Word

namespace VectoredInterrupts

namespace Board

/-- Address of the controller's register block. -/
def controllerBase : Word := 0x10140000

/-- Request lines of the board's devices. -/
inductive Device where
  | watchdog
  /-- Reserved for interrupts raised by software. -/
  | software
  | timer0
  | timer1
  | clock
  | uart0
  | uart1
  | uart2
deriving DecidableEq

/-- The line a device drives. -/
def Device.line : Device → Nat
  | .watchdog => 0
  | .software => 1
  | .timer0 => 4
  | .timer1 => 5
  | .clock => 10
  | .uart0 => 12
  | .uart1 => 13
  | .uart2 => 14

/-- Every device drives a line that the controller serves. -/
theorem Device.line_lt (device : Device) : device.line < lineCount := by
  cases device <;> decide

end Board

end VectoredInterrupts
