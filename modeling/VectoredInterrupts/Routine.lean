/-
**Routines and handlers.**

A routine is code the processor can jump to. The firmware image places every routine at an address
of its own, 16 bytes apart from `codeBase` on, so that an address names at most one routine:

* `Routine.ofAddress?_address`: the address of a routine leads back to it;
* `Routine.address_injective` and `Routine.address_ne_zero`.

A handler is what a table of polled lines holds: a routine, a routine with a context of its own, or
the handler of spurious interrupts.
-/

import VectoredInterrupts.Word

namespace VectoredInterrupts

/-- Routines that the firmware image has room for, besides the two built in. -/
def userRoutines : Nat := 65536

/-- Code with an address. -/
inductive Routine where
  /-- Serves interrupts that nobody claims. -/
  | dummy
  /-- Marks the default vector: the dispatcher looks for a binding without a slot instead. -/
  | fallback
  /-- A routine of the firmware. -/
  | user (number : Fin userRoutines)
deriving DecidableEq

instance : Inhabited Routine := ⟨.dummy⟩

/-- Where the firmware image starts. -/
def codeBase : Word := 0x6A3D91B74000

namespace Routine

/-- The place of a routine in the image. -/
def index : Routine → Nat
  | .dummy => 0
  | .fallback => 1
  | .user number => number.val + 2

/-- The routine at a place in the image. -/
def ofIndex? : Nat → Option Routine
  | 0 => some .dummy
  | 1 => some .fallback
  | place + 2 => if small : place < userRoutines then some (.user ⟨place, small⟩) else none

/-- The address of a routine. -/
def address (routine : Routine) : Word := codeBase + BitVec.ofNat 64 (16 * routine.index)

/-- The routine that starts at an address. -/
def ofAddress? (address : Word) : Option Routine :=
  if codeBase.toNat ≤ address.toNat ∧ (address.toNat - codeBase.toNat) % 16 = 0 then
    ofIndex? ((address.toNat - codeBase.toNat) / 16)
  else none

theorem ofIndex?_index (routine : Routine) : ofIndex? routine.index = some routine := by
  cases routine with
  | dummy => rfl
  | fallback => rfl
  | user number => simp [index, ofIndex?]

theorem index_lt (routine : Routine) : routine.index < 65538 := by
  cases routine with
  | dummy => decide
  | fallback => decide
  | user number =>
    have small := number.isLt
    simp only [userRoutines] at small
    simp only [index]
    omega

theorem toNat_address (routine : Routine) :
    routine.address.toNat = 0x6A3D91B74000 + 16 * routine.index := by
  have small := routine.index_lt
  have base : codeBase.toNat = 0x6A3D91B74000 := by decide
  rw [address, BitVec.toNat_add, BitVec.toNat_ofNat, base]
  omega

/-- The address of a routine leads back to it. -/
theorem ofAddress?_address (routine : Routine) : ofAddress? routine.address = some routine := by
  have base : codeBase.toNat = 0x6A3D91B74000 := by decide
  unfold ofAddress?
  rw [toNat_address, base, if_pos (by omega)]
  rw [show (0x6A3D91B74000 + 16 * routine.index - 0x6A3D91B74000) / 16 = routine.index by omega]
  exact ofIndex?_index routine

/-- Different routines have different addresses. -/
theorem address_injective {first second : Routine} (same : first.address = second.address) :
    first = second := by
  have back := ofAddress?_address first
  rw [same, ofAddress?_address] at back
  exact (Option.some.inj back).symm

/-- No routine starts at address zero. -/
theorem address_ne_zero (routine : Routine) : routine.address ≠ 0 := by
  intro zero
  have value := toNat_address routine
  rw [zero, show (0 : Word).toNat = 0 from rfl] at value
  omega

/-- The name a routine is shown under. -/
def name : Routine → String
  | .dummy => "dummy"
  | .fallback => "default"
  | .user number => "isr" ++ toString number.val

/-- The routine whose address has the given low half, when the high half is cut off. -/
def ofLowHalf? (word : Word) : Option Routine :=
  if word.toNat < 0x100000000 then ofAddress? ((codeBase >>> 32) <<< 32 ||| word) else none

end Routine

/-- What serves a polled line. -/
inductive Handler where
  /-- A plain routine. -/
  | routine (target : Routine)
  /-- A routine that is given a context of its own. -/
  | context (number : Nat)
  /-- The handler of spurious interrupts. -/
  | spurious
deriving DecidableEq

instance : Inhabited Handler := ⟨.spurious⟩

/-- The name a handler is shown under. -/
def Handler.name : Handler → String
  | .routine target => target.name
  | .context number => "ctx" ++ toString number
  | .spurious => "spurious"

/-- The text of a word: the name of a routine for its address, or for the low half of its address,
and hexadecimal digits for anything else. -/
def Word.render (word : Word) : String :=
  match Routine.ofAddress? word with
  | some routine => routine.name
  | none =>
    match Routine.ofLowHalf? word with
    | some routine => "lo32:" ++ routine.name
    | none => hex word.toNat

end VectoredInterrupts
