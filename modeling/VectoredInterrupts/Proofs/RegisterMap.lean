/-
**Where the registers are.**

Eleven registers answer at one offset each. The words of the three banks answer at the offsets of
all their bytes. No two registers share an offset, so an offset leads to the register that covers
it, if there is one.

* `Register.Covers`: the offsets of a register;
* `Register.ofOffset?_eq_some_iff`: an offset leads to the register that covers it.
-/

import VectoredInterrupts.RegisterMap

namespace VectoredInterrupts

/-- A bank answers at the bytes of each of its words. -/
theorem bankIndex?_eq_some_iff {base count offset : Nat} {index : Fin count} :
    bankIndex? base count offset = some index ↔
      base + index * 4 ≤ offset ∧ offset < base + index * 4 + 4 := by
  unfold bankIndex?
  by_cases inside : base ≤ offset ∧ offset < base + 4 * count
  · rw [dif_pos inside, Option.some.injEq, Fin.ext_iff]
    show (offset - base) / 4 = index ↔ _
    omega
  · rw [dif_neg inside]
    have := index.isLt
    constructor
    · nofun
    · omega

theorem bankIndex?_eq_none {base count offset : Nat} (past : base + 4 * count ≤ offset) :
    bankIndex? base count offset = none :=
  dif_neg fun inside => Nat.not_lt.mpr past inside.2

namespace Register

/-- The offsets at which a register answers. -/
def Covers : Register → Nat → Prop
  | .irqStatus, offset => offset = 0x000
  | .fiqStatus, offset => offset = 0x004
  | .rawStatus, offset => offset = 0x008
  | .select, offset => offset = 0x00C
  | .enable, offset => offset = 0x010
  | .enableClear, offset => offset = 0x014
  | .soft, offset => offset = 0x018
  | .softClear, offset => offset = 0x01C
  | .protection, offset => offset = 0x020
  | .vector, offset => offset = 0x030
  | .defaultVector, offset => offset = 0x034
  | .slotAddress slot, offset => 0x100 + slot * 4 ≤ offset ∧ offset < 0x100 + slot * 4 + 4
  | .slotControl slot, offset => 0x200 + slot * 4 ≤ offset ∧ offset < 0x200 + slot * 4 + 4
  | .identification index, offset => 0xFE0 + index * 4 ≤ offset ∧ offset < 0xFE0 + index * 4 + 4

theorem of_ite {condition : Prop} [Decidable condition] {first register : Register}
    {rest : Option Register} (found : (if condition then some first else rest) = some register) :
    condition ∧ first = register ∨ rest = some register := by
  by_cases decided : condition
  · rw [if_pos decided] at found
    exact .inl ⟨decided, Option.some.inj found⟩
  · rw [if_neg decided] at found
    exact .inr found

/-- Past the single registers there are the banks. -/
theorem ofOffset?_of_past {offset : Nat} (past : 0x034 < offset) :
    ofOffset? offset = match bankIndex? 0x100 16 offset with
      | some slot => some (.slotAddress slot)
      | none => match bankIndex? 0x200 16 offset with
        | some slot => some (.slotControl slot)
        | none => (bankIndex? 0xFE0 8 offset).map .identification := by
  have other : ∀ single, single ≤ 0x034 → offset ≠ single := fun _ _ => by omega
  unfold ofOffset?
  iterate 11 rw [if_neg (other _ (by decide))]
  rfl

/-- **An offset leads to the register that covers it.** -/
theorem ofOffset?_eq_some_iff {offset : Nat} {register : Register} :
    ofOffset? offset = some register ↔ register.Covers offset := by
  constructor
  · intro found
    unfold ofOffset? at found
    iterate 11
      rcases of_ite found with ⟨rfl, rfl⟩ | found
      · rfl
    split at found
    · cases found
      exact bankIndex?_eq_some_iff.mp ‹_›
    · split at found
      · cases found
        exact bankIndex?_eq_some_iff.mp ‹_›
      · obtain ⟨index, inside, rfl⟩ := Option.map_eq_some_iff.mp found
        exact bankIndex?_eq_some_iff.mp inside
  · intro covers
    cases register with
    | slotAddress slot =>
      have begins := covers.1
      rw [ofOffset?_of_past (by omega), bankIndex?_eq_some_iff.mpr covers]
    | slotControl slot =>
      have begins := covers.1
      rw [ofOffset?_of_past (by omega), bankIndex?_eq_none (by omega),
        bankIndex?_eq_some_iff.mpr covers]
    | identification index =>
      have begins := covers.1
      rw [ofOffset?_of_past (by omega), bankIndex?_eq_none (by omega),
        bankIndex?_eq_none (by omega), bankIndex?_eq_some_iff.mpr covers]
      rfl
    | _ =>
      cases covers
      rfl

end Register

end VectoredInterrupts
