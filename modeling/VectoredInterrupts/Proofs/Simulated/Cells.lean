/-
**Single accesses to the simulated controller.**

The controller completes the accesses that its register map has, and faults on the others without
doing anything. What it holds is divided into cells (`Simulated.Cell`), each with the offsets at
which a write reaches it.

* `Offset.readable_iff`, `Offset.writable_iff`: the map by its offsets;
* `Simulated.read_eq_error`, `Simulated.write_eq_error`: accesses off the map;
* `Simulated.stateAfter_read`, `Simulated.content_write`: what an access leaves alone;
* `Simulated.content_kept`, `Simulated.read_kept`: what is written reads back.
-/

import VectoredInterrupts.Proofs.Legality

namespace VectoredInterrupts

/-! ### The offsets of the map -/

/-- The offsets that can be read. -/
def Offset.Readable (offset : Nat) : Prop :=
  offset ∈ [0x000, 0x004, 0x008, 0x00C, 0x010, 0x018, 0x020, 0x030, 0x034] ∨
    (0x100 ≤ offset ∧ offset < 0x140) ∨ (0x200 ≤ offset ∧ offset < 0x240) ∨
    (0xFE0 ≤ offset ∧ offset < 0x1000)

/-- The offsets that can be written. -/
def Offset.Writable (offset : Nat) : Prop :=
  offset ∈ [0x00C, 0x010, 0x014, 0x018, 0x01C, 0x020, 0x030, 0x034] ∨
    (0x100 ≤ offset ∧ offset < 0x140) ∨ (0x200 ≤ offset ∧ offset < 0x240)

instance (offset : Nat) : Decidable (Offset.Readable offset) :=
  inferInstanceAs (Decidable (_ ∨ _))

instance (offset : Nat) : Decidable (Offset.Writable offset) :=
  inferInstanceAs (Decidable (_ ∨ _))

/-- The words of a bank of registers are the bytes between its bounds. -/
theorem exists_word_iff {base offset : Nat} (count : Nat) :
    (∃ index : Fin count, base + index * 4 ≤ offset ∧ offset < base + index * 4 + 4) ↔
      base ≤ offset ∧ offset < base + count * 4 := by
  constructor
  · rintro ⟨index, inside⟩
    have := index.isLt
    omega
  · intro inside
    exact ⟨⟨(offset - base) / 4, by omega⟩, by simp only; omega⟩

/-- The slot registers can be read and written, at all of their bytes. -/
theorem Register.exists_slot {offset : Nat}
    (inside : (0x100 ≤ offset ∧ offset < 0x140) ∨ (0x200 ≤ offset ∧ offset < 0x240)) :
    ∃ register, Register.ofOffset? offset = some register ∧
      ∀ access : Access, access.suits register = true := by
  rcases inside with inside | inside
  · obtain ⟨slot, covers⟩ := (exists_word_iff 16).mpr inside
    exact ⟨.slotAddress slot, ofOffset?_eq_some_iff.mpr covers, fun access => by cases access <;> rfl⟩
  · obtain ⟨slot, covers⟩ := (exists_word_iff 16).mpr inside
    exact ⟨.slotControl slot, ofOffset?_eq_some_iff.mpr covers, fun access => by cases access <;> rfl⟩

/-- An offset can be read if it leads to a register that can. -/
theorem Offset.readable_iff {offset : Nat} : Offset.Readable offset ↔
    ∃ register, Register.ofOffset? offset = some register ∧
      (Access.read offset).suits register = true := by
  constructor
  · intro readable
    rcases readable with single | address | control | identification
    · simp only [List.mem_cons, List.not_mem_nil, or_false] at single
      rcases single with rfl | rfl | rfl | rfl | rfl | rfl | rfl | rfl | rfl <;>
        exact ⟨_, rfl, rfl⟩
    · obtain ⟨register, found, suits⟩ := Register.exists_slot (.inl address)
      exact ⟨register, found, suits _⟩
    · obtain ⟨register, found, suits⟩ := Register.exists_slot (.inr control)
      exact ⟨register, found, suits _⟩
    · obtain ⟨index, covers⟩ := (exists_word_iff 8).mpr identification
      exact ⟨.identification index, Register.ofOffset?_eq_some_iff.mpr covers, rfl⟩
  · rintro ⟨register, found, suits⟩
    have covers := Register.ofOffset?_eq_some_iff.mp found
    cases register with
    | enableClear | softClear => cases suits
    | slotAddress | slotControl | identification =>
      simp only [Register.Covers] at covers
      simp only [Readable]
      omega
    | _ =>
      cases covers
      decide

/-- It can be written if it leads to a register that can. -/
theorem Offset.writable_iff {offset : Nat} : Offset.Writable offset ↔
    ∃ register, Register.ofOffset? offset = some register ∧
      (Access.write offset).suits register = true := by
  constructor
  · intro writable
    rcases writable with single | slots
    · simp only [List.mem_cons, List.not_mem_nil, or_false] at single
      rcases single with rfl | rfl | rfl | rfl | rfl | rfl | rfl | rfl <;> exact ⟨_, rfl, rfl⟩
    · obtain ⟨register, found, suits⟩ := Register.exists_slot slots
      exact ⟨register, found, suits _⟩
  · rintro ⟨register, found, suits⟩
    have covers := Register.ofOffset?_eq_some_iff.mp found
    cases register with
    | irqStatus | fiqStatus | rawStatus | identification => cases suits
    | slotAddress | slotControl =>
      simp only [Register.Covers] at covers
      simp only [Writable]
      omega
    | _ =>
      cases covers
      decide

namespace Simulated

/-! ### Single accesses -/

section Accesses

variable (controller : Simulated) {offset : Nat}

theorem read_returns (readable : Offset.Readable offset) :
    ∃ value after, RegisterBank.read offset controller = .ok value after := by
  obtain ⟨register, found, suits⟩ := Offset.readable_iff.mp readable
  show ∃ value after, read offset controller = .ok value after
  rw [read, found]
  cases register with
  | enableClear | softClear => cases suits
  | _ => exact ⟨_, _, rfl⟩

/-- A read off the map. -/
theorem read_eq_error (unreadable : ¬ Offset.Readable offset) :
    RegisterBank.read offset controller = .error (.unsupportedRead offset) controller := by
  show read offset controller = _
  rw [read]
  cases found : Register.ofOffset? offset with
  | none => rfl
  | some register =>
    have unsuited := mt (fun suits => Offset.readable_iff.mpr ⟨register, found, suits⟩) unreadable
    cases register with
    | enableClear | softClear => rfl
    | _ => exact absurd rfl unsuited

theorem write_returns (writable : Offset.Writable offset) (value : Word) :
    ∃ after, RegisterBank.write offset value controller = .ok () after := by
  obtain ⟨register, found, suits⟩ := Offset.writable_iff.mp writable
  show ∃ after, write offset value controller = .ok () after
  rw [write, found]
  cases register with
  | irqStatus | fiqStatus | rawStatus | identification => cases suits
  | _ => exact ⟨_, rfl⟩

/-- A write off the map. -/
theorem write_eq_error (unwritable : ¬ Offset.Writable offset) (value : Word) :
    RegisterBank.write offset value controller = .error (.unsupportedWrite offset) controller := by
  show write offset value controller = _
  rw [write]
  cases found : Register.ofOffset? offset with
  | none => rfl
  | some register =>
    have unsuited := mt (fun suits => Offset.writable_iff.mpr ⟨register, found, suits⟩) unwritable
    cases register with
    | irqStatus | fiqStatus | rawStatus | identification => rfl
    | _ => exact absurd rfl unsuited

/-- An access that faults changes nothing. -/
theorem eq_of_read_error {fault : Fault} {after : Simulated}
    (faults : RegisterBank.read offset controller = .error fault after) : after = controller := by
  by_cases readable : Offset.Readable offset
  · obtain ⟨value, other, returns⟩ := controller.read_returns readable
    cases returns.symm.trans faults
  · cases (controller.read_eq_error readable).symm.trans faults
    rfl

theorem eq_of_write_error {value : Word} {fault : Fault} {after : Simulated}
    (faults : RegisterBank.write offset value controller = .error fault after) :
    after = controller := by
  by_cases writable : Offset.Writable offset
  · obtain ⟨other, returns⟩ := controller.write_returns writable value
    cases returns.symm.trans faults
  · cases (controller.write_eq_error writable value).symm.trans faults
    rfl

/-- A read has no effect, unless it starts service. -/
theorem stateAfter_read (elsewhere : offset ≠ Offset.vector) :
    stateAfter (RegisterBank.read offset) controller = controller := by
  show stateAfter (read offset) controller = controller
  unfold stateAfter read
  cases found : Register.ofOffset? offset with
  | none => rfl
  | some register =>
    cases register with
    | vector => exact absurd (Register.ofOffset?_eq_some_iff.mp found) elsewhere
    | _ => rfl

end Accesses

/-! ### Cells -/

attribute [ext] Slot Simulated

/-- What a controller holds, cell by cell. -/
inductive Cell where
  | inputs
  | soft
  | enabled
  | select
  | protection
  | defaultVector
  | slotAddress (slot : Fin 16)
  | slotControl (slot : Fin 16)
  | vectorReads
  | acknowledgements
  | inService
deriving DecidableEq

/-- The number of values that a counter of the controller can take: it is a word. -/
def counterRange : Nat := 0x10000000000000000

/-- What is in a cell, as a number. -/
def content (controller : Simulated) : Cell → Nat
  | .inputs => controller.inputs.toNat
  | .soft => controller.soft.toNat
  | .enabled => controller.enabled.toNat
  | .select => controller.select.toNat
  | .protection => controller.protection.toNat
  | .defaultVector => controller.defaultVector.toNat
  | .slotAddress slot => (controller.slots.get slot).address.toNat
  | .slotControl slot => (controller.slots.get slot).control.toNat
  | .vectorReads => controller.vectorReads
  | .acknowledgements => controller.acknowledgements
  | .inService => controller.inService

/-- A controller holds nothing else. -/
theorem eq_of_content {first second : Simulated}
    (same : ∀ cell, first.content cell = second.content cell) : first = second := by
  have inputs := BitVec.eq_of_toNat_eq (same .inputs)
  have soft := BitVec.eq_of_toNat_eq (same .soft)
  have enabled := BitVec.eq_of_toNat_eq (same .enabled)
  have select := BitVec.eq_of_toNat_eq (same .select)
  have protection := BitVec.eq_of_toNat_eq (same .protection)
  have defaultVector := BitVec.eq_of_toNat_eq (same .defaultVector)
  have slots : first.slots = second.slots := by
    refine Vector.ext fun index inside => ?_
    have address := BitVec.eq_of_toNat_eq (same (.slotAddress ⟨index, inside⟩))
    have control := BitVec.eq_of_toNat_eq (same (.slotControl ⟨index, inside⟩))
    exact Slot.ext control address
  exact Simulated.ext inputs soft enabled select protection defaultVector slots (same .inService)
    (same .vectorReads) (same .acknowledgements)

/-- The offsets at which a write reaches a cell. -/
def Cell.WrittenAt : Cell → Nat → Prop
  | .inputs, _ | .vectorReads, _ => False
  | .select, offset => offset = 0x00C
  | .enabled, offset => offset = 0x010 ∨ offset = 0x014
  | .soft, offset => offset = 0x018 ∨ offset = 0x01C
  | .protection, offset => offset = 0x020
  | .acknowledgements, offset | .inService, offset => offset = 0x030
  | .defaultVector, offset => offset = 0x034
  | .slotAddress slot, offset => 0x100 + slot * 4 ≤ offset ∧ offset < 0x100 + slot * 4 + 4
  | .slotControl slot, offset => 0x200 + slot * 4 ≤ offset ∧ offset < 0x200 + slot * 4 + 4

/-- What a cell keeps of the word last written to it, if nothing else is in it. -/
def Cell.kept? : Cell → Word → Option Word
  | .slotAddress _, value | .defaultVector, value => some value
  | .slotControl _, value => some (value &&& 0x3F)
  | .protection, value => some (value &&& 1)
  | .select, value => some (value &&& 0xFFFFFFFF)
  | _, _ => none

/-- A change that keeps a part of its slot keeps that part of every slot. -/
theorem slot_modifySlot (controller : Simulated) {τ : Type} (part : Slot → τ)
    (change : Slot → Slot) (keeps : ∀ slot, part (change slot) = part slot) (named slot : Fin 16) :
    part ((controller.modifySlot named change).slots.get slot) =
      part (controller.slots.get slot) := by
  rw [slots_modifySlot]
  by_cases same : slot = named
  · rw [same, Function.update_self, keeps]
  · rw [Function.update_of_ne same]

/-- **A write** reaches the cells of its register. -/
theorem content_write (controller : Simulated) {cell : Cell} {offset : Nat} (value : Word)
    (elsewhere : ¬ cell.WrittenAt offset) :
    (stateAfter (RegisterBank.write offset value) controller).content cell =
      controller.content cell := by
  show (stateAfter (write offset value) controller).content cell = _
  unfold stateAfter write
  cases found : Register.ofOffset? offset with
  | none => rfl
  | some register =>
    have covers := Register.ofOffset?_eq_some_iff.mp found
    cases cell with
    | inputs | vectorReads => cases register <;> rfl
    | select =>
      cases register with
      | select => exact absurd covers elsewhere
      | _ => rfl
    | enabled =>
      cases register with
      | enable => exact absurd (.inl covers) elsewhere
      | enableClear => exact absurd (.inr covers) elsewhere
      | _ => rfl
    | soft =>
      cases register with
      | soft => exact absurd (.inl covers) elsewhere
      | softClear => exact absurd (.inr covers) elsewhere
      | _ => rfl
    | protection =>
      cases register with
      | protection => exact absurd covers elsewhere
      | _ => rfl
    | acknowledgements | inService =>
      cases register with
      | vector => exact absurd covers elsewhere
      | _ => rfl
    | defaultVector =>
      cases register with
      | defaultVector => exact absurd covers elsewhere
      | _ => rfl
    | slotAddress slot =>
      cases register with
      | slotAddress named =>
        have other : slot ≠ named := fun same => elsewhere (same ▸ covers)
        simp only [content, slots_modifySlot, Function.update_of_ne other]
      | slotControl named =>
        refine controller.slot_modifySlot (fun slot => slot.address.toNat) _ (fun _ => ?_) named slot
        rfl
      | _ => rfl
    | slotControl slot =>
      cases register with
      | slotAddress named =>
        refine controller.slot_modifySlot (fun slot => slot.control.toNat) _ (fun _ => ?_) named slot
        rfl
      | slotControl named =>
        have other : slot ≠ named := fun same => elsewhere (same ▸ covers)
        simp only [content, slots_modifySlot, Function.update_of_ne other]
      | _ => rfl

/-- The lines that a word names are its low half. -/
theorem toNat_and_allLines (word : Word) : (word &&& allLines).toNat = word.lines.toNat := by
  rw [Word.lines, BitVec.toNat_and, BitVec.toNat_setWidth]
  exact Nat.and_two_pow_sub_one_eq_mod word.toNat 32

/-- What a cell keeps is in it after a write, and reads back. -/
theorem content_kept (controller : Simulated) {cell : Cell} {offset : Nat} {value kept : Word}
    (here : cell.WrittenAt offset) (keeps : cell.kept? value = some kept) :
    (stateAfter (RegisterBank.write offset value) controller).content cell = kept.toNat := by
  have found : ∀ register : Register, register.Covers offset →
      Register.ofOffset? offset = some register := fun _ => Register.ofOffset?_eq_some_iff.mpr
  show (stateAfter (write offset value) controller).content cell = _
  unfold stateAfter write
  cases cell with
  | slotAddress slot =>
    cases keeps
    rw [found (.slotAddress slot) here]
    simp only [content, slots_modifySlot, Function.update_self]
  | slotControl slot =>
    cases keeps
    rw [found (.slotControl slot) here]
    simp only [content, slots_modifySlot, Function.update_self]
    rfl
  | defaultVector =>
    cases keeps
    rw [found .defaultVector here]
    rfl
  | protection =>
    cases keeps
    rw [found .protection here]
    rfl
  | select =>
    cases keeps
    rw [found .select here]
    exact (toNat_and_allLines value).symm
  | _ => cases keeps

/-- What is in such a cell is what a read returns. -/
theorem read_kept (controller : Simulated) {cell : Cell} {offset : Nat} {value kept : Word}
    (here : cell.WrittenAt offset) (keeps : cell.kept? value = some kept)
    (content : controller.content cell = kept.toNat) :
    RegisterBank.read offset controller = .ok kept controller := by
  have found : ∀ register : Register, register.Covers offset →
      Register.ofOffset? offset = some register := fun _ => Register.ofOffset?_eq_some_iff.mpr
  show read offset controller = _
  unfold read
  cases cell with
  | slotAddress slot =>
    rw [found (.slotAddress slot) here, ← BitVec.eq_of_toNat_eq content]
    rfl
  | slotControl slot =>
    rw [found (.slotControl slot) here, ← BitVec.eq_of_toNat_eq content]
    rfl
  | defaultVector =>
    rw [found .defaultVector here, ← BitVec.eq_of_toNat_eq content]
  | protection =>
    rw [found .protection here, ← BitVec.eq_of_toNat_eq content]
  | select =>
    rw [found .select here]
    have word : controller.select.word = kept := by
      refine BitVec.eq_of_toNat_eq (Eq.trans ?_ content)
      exact BitVec.toNat_setWidth_of_le (by decide)
    rw [← word]
  | _ => cases keeps

end Simulated

end VectoredInterrupts
