/-
**Banks with vector slots.**

Loading a slot is two writes (`Bus.loadSlot_eq`). A bank has vector slots (`SlotBank`) if their
registers hold what is written to them, as far as they are wide enough, and nothing outside their
offsets (`Offset.OfSlot`) reaches them. The simulated controller and the memory mapped block have
them: there a control register keeps every control word, and an address register keeps the whole
address or its low half.
-/

import VectoredInterrupts.Bank.Simulated
import VectoredInterrupts.Bank.Cells
import VectoredInterrupts.Proofs.RegisterMap
import VectoredInterrupts.Proofs.Steps
import Mathlib.Logic.Function.Basic

namespace VectoredInterrupts

/-- The offset falls in a slot register. -/
def Offset.OfSlot (offset : Nat) : Prop :=
  (Offset.slotAddressBase ≤ offset ∧ offset < Offset.slotAddressBase + 4 * slotCount) ∨
    (Offset.slotControlBase ≤ offset ∧ offset < Offset.slotControlBase + 4 * slotCount)

instance (offset : Nat) : Decidable (Offset.OfSlot offset) :=
  inferInstanceAs (Decidable (_ ∨ _))

/-- No operation on one line writes to a slot. -/
theorem LineOp.not_ofSlot_of_written {op : LineOp} {offset : Nat} (written : offset ∈ op.written?) :
    ¬ Offset.OfSlot offset := by
  cases op with
  | isEnabled | route => cases written
  | enable | disable | setRoute | raise | clear =>
    obtain rfl := Option.some.inj written
    decide

section Loading

variable {β γ : Type} [RegisterBank β]

/-- A fault that the bank raises when a slot register is written. -/
def SlotFault (β : Type) [RegisterBank β] (fault : Fault) : Prop :=
  ∃ (slot : Fin 16) (value : Word) (bank after : β),
    RegisterBank.write (Offset.slotControl slot) value bank = .error fault after ∨
      RegisterBank.write (Offset.slotAddress slot) value bank = .error fault after

theorem Bus.slotControl_eq {slot : Nat} (inside : slot < slotCount) :
    (Bus.slotControl slot : Bus β γ Word) = Bus.read (Offset.slotControl slot) := by
  unfold Bus.slotControl Bus.checkSlot
  rw [if_pos inside]
  rfl

theorem Bus.setSlotControl_eq {slot : Nat} (inside : slot < slotCount) (value : Word) :
    (Bus.setSlotControl slot value : Bus β γ Unit) = Bus.write (Offset.slotControl slot) value := by
  unfold Bus.setSlotControl Bus.checkSlot
  rw [if_pos inside]
  rfl

theorem Bus.setSlotAddress_eq {slot : Nat} (inside : slot < slotCount) (value : Word) :
    (Bus.setSlotAddress slot value : Bus β γ Unit) = Bus.write (Offset.slotAddress slot) value := by
  unfold Bus.setSlotAddress Bus.checkSlot
  rw [if_pos inside]
  rfl

/-- What a slot holds once an entry is loaded: its control word and the routine in it. -/
def Entry.slotWords (entry : Entry Routine) : Word × Routine :=
  match entry.line with
  | some line => (slotControlOf line, entry.payload)
  | none => (0, .dummy)

/-- Loading a slot is two writes. -/
theorem Bus.loadSlot_eq {index : Nat} (inside : index < slotCount) (entry : Entry Routine) :
    (Bus.loadSlot index entry : Bus β γ Unit) = (do
      Bus.write (Offset.slotControl index) entry.slotWords.1
      Bus.write (Offset.slotAddress index) entry.slotWords.2.address) := by
  unfold Bus.loadSlot Entry.slotWords
  rw [if_pos inside]
  cases entry.line with
  | none => simp only [setSlotControl_eq inside, setSlotAddress_eq inside]
  | some line => simp only [setSlotControl_eq inside, setSlotAddress_eq inside]

theorem Bus.loadSlot_outside {index : Nat} (outside : ¬ index < slotCount) (entry : Entry Routine) :
    (Bus.loadSlot index entry : Bus β γ Unit) = pure () :=
  if_neg outside

end Loading

/-! ### What a bank does with its slots -/

/-- A register bank with vector slots in it. -/
class SlotBank (β : Type) [RegisterBank β] where
  /-- What is in a slot. -/
  slot : β → Fin 16 → Slot
  /-- What a control register keeps of a word. -/
  keepControl : Word → Word
  /-- What an address register keeps of a word. -/
  keepAddress : Word → Word
  /-- A control register keeps the line field and the enable bit. -/
  keepControl_eq : ∀ value, value &&& (controlEnable ||| controlLineMask) = value →
    keepControl value = value
  read_control : ∀ (k : Fin 16) bank,
    RegisterBank.read (Offset.slotControl k) bank = .ok (slot bank k).control bank
  read_address : ∀ (k : Fin 16) bank,
    RegisterBank.read (Offset.slotAddress k) bank = .ok (slot bank k).address bank
  write_control : ∀ (k : Fin 16) value bank, ∃ after,
    RegisterBank.write (Offset.slotControl k) value bank = .ok () after ∧
      slot after = Function.update (slot bank) k ⟨keepControl value, (slot bank k).address⟩
  write_address : ∀ (k : Fin 16) value bank, ∃ after,
    RegisterBank.write (Offset.slotAddress k) value bank = .ok () after ∧
      slot after = Function.update (slot bank) k ⟨(slot bank k).control, keepAddress value⟩
  slot_read : ∀ offset bank, slot (stateAfter (RegisterBank.read offset) bank) = slot bank
  /-- No write outside the slot registers reaches a slot. -/
  slot_write : ∀ offset value bank, ¬ Offset.OfSlot offset →
    slot (stateAfter (RegisterBank.write offset value) bank) = slot bank
  /-- The registers that are written when the controller is set up can be written. -/
  writable : ∀ offset ∈ [Offset.select, Offset.enableClear, Offset.softClear, Offset.defaultVector],
    ∀ (value : Word) (bank : β), ∃ after, RegisterBank.write offset value bank = .ok () after

theorem SlotBank.not_slotFault {β : Type} [RegisterBank β] [SlotBank β] (fault : Fault) :
    ¬ SlotFault β fault := by
  rintro ⟨slot, value, bank, after, raised | raised⟩
  · obtain ⟨_, returns, -⟩ := SlotBank.write_control slot value bank
    cases returns.symm.trans raised
  · obtain ⟨_, returns, -⟩ := SlotBank.write_address slot value bank
    cases returns.symm.trans raised

section Access

variable {β γ : Type} [RegisterBank β] [SlotBank β]

/-- The vector register is not a slot register. -/
theorem Offset.not_ofSlot_vector : ¬ Offset.OfSlot Offset.vector := by decide

theorem SlotBank.undisturbed (holds : (Fin 16 → Slot) → Prop) :
    Undisturbed (fun offset => ¬ Offset.OfSlot offset)
      fun bank : β => holds (SlotBank.slot bank) where
  read offset bank before := by
    show holds (SlotBank.slot _)
    rwa [SlotBank.slot_read]
  write offset value outside bank before := by
    show holds (SlotBank.slot _)
    rwa [SlotBank.slot_write offset value bank outside]

/-- What a slot holds once an entry has been loaded into it. -/
def SlotBank.loaded (β : Type) [RegisterBank β] [SlotBank β] (entry : Entry Routine) : Slot :=
  ⟨SlotBank.keepControl β entry.slotWords.1, SlotBank.keepAddress β entry.slotWords.2.address⟩

/-- Loading a slot changes that slot only. -/
theorem Bus.loadSlot_ok (k : Fin 16) (entry : Entry Routine) (machine : Machine β γ) :
    ∃ after, Bus.loadSlot k entry machine = .ok () after ∧ SlotBank.slot after.bank =
      Function.update (SlotBank.slot machine.bank) k (SlotBank.loaded β entry) := by
  obtain ⟨middle, control, slots⟩ := SlotBank.write_control k entry.slotWords.1 machine.bank
  obtain ⟨after, address, slots_after⟩ := SlotBank.write_address k entry.slotWords.2.address middle
  rw [Bus.loadSlot_eq k.isLt, bind_ok (Bus.write_ok control)]
  refine ⟨_, Bus.write_ok address, ?_⟩
  rw [slots_after, slots, Function.update_idem, Function.update_self]
  rfl

/-- Changing the control word of a slot leaves the rest of the slots alone. -/
theorem Bus.modifyControl_ok (k : Fin 16) (change : Word → Word) (machine : Machine β γ) :
    ∃ after, (do Bus.setSlotControl k (change (← Bus.slotControl k)) : Bus β γ Unit) machine =
        .ok () after ∧
      SlotBank.slot after.bank = Function.update (SlotBank.slot machine.bank) k
        ⟨SlotBank.keepControl β (change (SlotBank.slot machine.bank k).control),
          (SlotBank.slot machine.bank k).address⟩ := by
  obtain ⟨after, written, slots⟩ := SlotBank.write_control k
    (change (SlotBank.slot machine.bank k).control) machine.bank
  rw [Bus.slotControl_eq k.isLt, bind_ok (Bus.read_ok (SlotBank.read_control k machine.bank)),
    Bus.setSlotControl_eq k.isLt]
  exact ⟨_, Bus.write_ok written, slots⟩

end Access

/-! ### The simulated controller -/

/-- Only the offsets of slot registers lead to slot registers. -/
theorem Register.ofSlot_of_ofOffset? {offset : Nat} {slot : Fin 16}
    (found : Register.ofOffset? offset = some (.slotAddress slot) ∨
      Register.ofOffset? offset = some (.slotControl slot)) : Offset.OfSlot offset := by
  simp only [ofOffset?_eq_some_iff, Covers] at found
  simp only [Offset.OfSlot, Offset.slotAddressBase, Offset.slotControlBase, slotCount]
  omega

namespace Simulated

theorem slots_modifySlot (controller : Simulated) (k : Fin 16) (change : Slot → Slot) :
    (controller.modifySlot k change).slots.get =
      Function.update controller.slots.get k (change (controller.slots.get k)) := by
  funext j
  by_cases same : j = k
  · subst same
    rw [Function.update_self]
    exact Vector.getElem_set_self _
  · rw [Function.update_of_ne same]
    exact Vector.getElem_set_ne k.isLt j.isLt fun equal => same (Fin.ext equal.symm)

instance : SlotBank Simulated where
  slot controller := controller.slots.get
  keepControl value := value &&& (controlEnable ||| controlLineMask)
  keepAddress value := value
  keepControl_eq _ fits := fits
  read_control k controller := by
    show read _ controller = _
    rw [read, Register.ofOffset?_slotControl]
    rfl
  read_address k controller := by
    show read _ controller = _
    rw [read, Register.ofOffset?_slotAddress]
    rfl
  write_control k value controller := by
    refine ⟨controller.modifySlot k fun slot =>
      { slot with control := value &&& (controlEnable ||| controlLineMask) }, ?_,
      slots_modifySlot controller k _⟩
    show write _ value controller = _
    rw [write, Register.ofOffset?_slotControl]
  write_address k value controller := by
    refine ⟨controller.modifySlot k fun slot => { slot with address := value }, ?_,
      slots_modifySlot controller k _⟩
    show write _ value controller = _
    rw [write, Register.ofOffset?_slotAddress]
  slot_read offset controller := by
    show (stateAfter (read offset) controller).slots.get = _
    unfold stateAfter read
    cases Register.ofOffset? offset with
    | none => rfl
    | some register => cases register <;> rfl
  slot_write offset value controller outside := by
    show (stateAfter (write offset value) controller).slots.get = _
    unfold stateAfter write
    cases found : Register.ofOffset? offset with
    | none => rfl
    | some register =>
      cases register with
      | slotAddress slot => exact absurd (Register.ofSlot_of_ofOffset? (.inl found)) outside
      | slotControl slot => exact absurd (Register.ofSlot_of_ofOffset? (.inr found)) outside
      | _ => rfl
  writable offset member value controller := by
    simp only [List.mem_cons, List.not_mem_nil, or_false] at member
    rcases member with rfl | rfl | rfl | rfl <;> exact ⟨_, rfl⟩

/-- The bench drives the lines that exist. -/
theorem drive_ok {line : Nat} (small : line < lineCount) (level : Bool) (controller : Simulated) :
    ∃ inputs, drive line level controller = .ok () { controller with inputs } := by
  unfold drive LineSet.put
  rw [if_pos (show line < 32 from small)]
  exact ⟨_, rfl⟩

theorem drive_error {line : Nat} (beyond : ¬ line < lineCount) (level : Bool)
    (controller : Simulated) : drive line level controller = .error .lineBeyondSet controller := by
  unfold drive LineSet.put
  rw [if_neg (show ¬ line < 32 from beyond)]

/-- The bench drives request lines and counts. -/
theorem bench_after (action : BenchAction) (controller : Simulated) :
    ∃ inputs, stateAfter (Benched.act action) controller = { controller with inputs } := by
  have drives : ∀ line level, ∃ inputs,
      stateAfter (do drive line level; return Reply.done) controller =
        { controller with inputs } := by
    intro line level
    rw [stateAfter_reply]
    by_cases small : line < lineCount
    · obtain ⟨inputs, drives⟩ := drive_ok small level controller
      exact ⟨inputs, stateAfter_ok drives⟩
    · exact ⟨controller.inputs, stateAfter_error (drive_error small level controller)⟩
  cases action with
  | raise line => exact drives line true
  | lower line => exact drives line false
  | vectorReads | acknowledgements | inService => exact ⟨controller.inputs, rfl⟩

/-- It does not reach the slots. -/
theorem bench_maintains (holds : (Fin 16 → Slot) → Prop) (action : BenchAction) :
    Maintains (fun controller : Simulated => holds (SlotBank.slot controller))
      (Benched.act action) := by
  intro controller before
  obtain ⟨inputs, after⟩ := bench_after action controller
  rw [after]
  exact before

end Simulated

/-! ### The memory mapped block -/

/-- Control words are narrow enough for any register. -/
theorem setWidth_of_fits {value : Word}
    (fits : value &&& (controlEnable ||| controlLineMask) = value) :
    (value.setWidth 32).setWidth 64 = value := by
  have bound : value.toNat ≤ 63 := by
    have masked := congrArg BitVec.toNat fits
    rw [BitVec.toNat_and] at masked
    rw [← masked]
    exact Nat.and_le_right
  refine BitVec.eq_of_toNat_eq ?_
  rw [BitVec.toNat_setWidth, BitVec.toNat_setWidth]
  omega

namespace MemoryBlock

/-- The low half of a word. -/
def lowHalf (value : Word) : Word := (value.setWidth 32).setWidth 64

/-- The slot registers are words 64 to 79 and 128 to 143 of the block. -/
def slotWords (block : MemoryBlock) (k : Fin 16) : Slot :=
  ⟨(block.words[128 + k.val]).setWidth 64, (block.words[64 + k.val]).setWidth 64⟩

theorem read_word {block : MemoryBlock} {offset index : Nat} (inside : index < 1024)
    (place : offset / 4 = index) :
    read offset block = .ok (block.words[index].setWidth 64) block := by
  subst place
  unfold read
  rw [dif_pos (by simp only [Offset.blockSize]; omega)]
  rfl

theorem write_word {block : MemoryBlock} {offset index : Nat} (inside : index < 1024)
    (place : offset / 4 = index) (value : Word) :
    write offset value block = .ok () ⟨block.words.set index (value.setWidth 32)⟩ := by
  subst place
  unfold write
  rw [dif_pos (by simp only [Offset.blockSize]; omega)]

instance : SlotBank MemoryBlock where
  slot := slotWords
  keepControl := lowHalf
  keepAddress := lowHalf
  keepControl_eq _ fits := setWidth_of_fits fits
  read_control k block := read_word (by omega) (by
    simp only [Offset.slotControl, Offset.slotControlBase]
    omega)
  read_address k block := read_word (by omega) (by
    simp only [Offset.slotAddress, Offset.slotAddressBase]
    omega)
  write_control k value block := by
    have place : Offset.slotControl k / 4 = 128 + k.val := by
      simp only [Offset.slotControl, Offset.slotControlBase]
      omega
    refine ⟨_, write_word (by omega) place value, funext fun j => ?_⟩
    unfold slotWords
    by_cases same : j = k
    · subst same
      rw [Function.update_self, Vector.getElem_set_self, Vector.getElem_set_ne _ _ (by omega)]
      rfl
    · have apart : j.val ≠ k.val := fun equal => same (Fin.ext equal)
      rw [Function.update_of_ne same, Vector.getElem_set_ne _ _ (by omega),
        Vector.getElem_set_ne _ _ (by omega)]
  write_address k value block := by
    have place : Offset.slotAddress k / 4 = 64 + k.val := by
      simp only [Offset.slotAddress, Offset.slotAddressBase]
      omega
    refine ⟨_, write_word (by omega) place value, funext fun j => ?_⟩
    unfold slotWords
    by_cases same : j = k
    · subst same
      rw [Function.update_self, Vector.getElem_set_self, Vector.getElem_set_ne _ _ (by omega)]
      rfl
    · have apart : j.val ≠ k.val := fun equal => same (Fin.ext equal)
      rw [Function.update_of_ne same, Vector.getElem_set_ne _ _ (by omega),
        Vector.getElem_set_ne _ _ (by omega)]
  slot_read offset block := by
    show slotWords (stateAfter (read offset) block) = slotWords block
    unfold stateAfter read
    by_cases inside : offset < Offset.blockSize
    · rw [dif_pos inside]
    · rw [dif_neg inside]
  slot_write offset value block outside := by
    show slotWords (stateAfter (write offset value) block) = slotWords block
    simp only [Offset.OfSlot, Offset.slotAddressBase, Offset.slotControlBase, slotCount] at outside
    unfold stateAfter write
    by_cases inside : offset < Offset.blockSize
    · rw [dif_pos inside]
      funext k
      unfold slotWords
      rw [Vector.getElem_set_ne _ _ (by omega), Vector.getElem_set_ne _ _ (by omega)]
    · rw [dif_neg inside]
  writable offset member value block := by
    simp only [List.mem_cons, List.not_mem_nil, or_false] at member
    rcases member with rfl | rfl | rfl | rfl <;> exact ⟨_, rfl⟩

end MemoryBlock

end VectoredInterrupts
