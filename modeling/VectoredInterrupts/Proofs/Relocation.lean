/-
**What a relocation leaves behind.**

A move copies one word after another, and where the destination overlaps the block a store takes the
place of a word of the block. Nothing is lost as long as every word is read before its place is
written over. Moving upwards or downwards is the same argument then, for two orders of the words.

* `Move.load_copies`: words copied in an order in which each is read in time;
* `Move.pairwise_inTime`: the order that a move takes is such an order;
* `relocate_moves`: the destination holds the block as it was, and nothing else has changed;
* `relocate_skipped_iff`: when a block stays where it is.
-/

import VectoredInterrupts.Relocation

namespace VectoredInterrupts

namespace Move

variable {move : Move}

/-- Where the word at an index is read. -/
def source (move : Move) (index : Nat) : Word := move.low + BitVec.ofNat 64 (4 * index)

/-- Where the word at an index is written. -/
def target (move : Move) (index : Nat) : Word := move.destination + BitVec.ofNat 64 (4 * index)

theorem load_copyWord (move : Move) (memory : Memory) (index : Nat) (address : Word) :
    (move.copyWord memory index).load address =
      if address = move.target index then memory.load (move.source index)
      else memory.load address :=
  memory.load_store (move.target index) address (memory.load (move.source index))

/-- The earlier of two copies spoils neither the word that the later one reads, nor is it spoilt by
what the later one writes. -/
def InTime (move : Move) (early late : Nat) : Prop :=
  move.source late ≠ move.target early ∧ move.target late ≠ move.target early

/-- **Copied words.** Each arrives as it was before the first of them was copied. -/
theorem load_copies {indices : List Nat} (inTime : indices.Pairwise move.InTime) (memory : Memory) :
    (∀ index ∈ indices, (indices.foldl move.copyWord memory).load (move.target index) =
      memory.load (move.source index)) ∧
    ∀ address, (∀ index ∈ indices, address ≠ move.target index) →
      (indices.foldl move.copyWord memory).load address = memory.load address := by
  induction indices generalizing memory with
  | nil => exact ⟨nofun, fun _ _ => rfl⟩
  | cons head rest ih =>
    obtain ⟨first, others⟩ := List.pairwise_cons.mp inTime
    obtain ⟨copied, kept⟩ := ih others (move.copyWord memory head)
    refine ⟨List.forall_mem_cons.mpr ⟨?_, fun index member => ?_⟩, fun address apart => ?_⟩
    · -- what follows does not write over the word that was copied first
      rw [List.foldl_cons, kept _ fun index member same => (first index member).2 same.symm,
        load_copyWord, if_pos rfl]
    · rw [List.foldl_cons, copied index member, load_copyWord, if_neg (first index member).1]
    · obtain ⟨apart_head, apart_rest⟩ := List.forall_mem_cons.mp apart
      rw [List.foldl_cons, kept address apart_rest, load_copyWord, if_neg apart_head]

/-! ### Addresses -/

/-- The bounds are in order, and the end of the destination is an address. -/
structure Fits (move : Move) : Prop where
  ordered : move.low.toNat ≤ move.high.toNat
  room : move.destination.toNat + move.length.toNat < addressCount

theorem toNat_length (ordered : move.low.toNat ≤ move.high.toNat) :
    move.length.toNat = move.high.toNat - move.low.toNat := by
  rw [length, BitVec.toNat_sub_of_le (BitVec.le_def.mpr ordered)]

theorem toNat_add_words {base : Word} {index : Nat} (inside : base.toNat + 4 * index < addressCount) :
    (base + BitVec.ofNat 64 (4 * index)).toNat = base.toNat + 4 * index := by
  rw [addressCount] at inside
  rw [BitVec.toNat_add, BitVec.toNat_ofNat]
  omega

namespace Fits

variable (fits : move.Fits) {index : Nat} (inside : index < move.words)

include fits inside

/-- The block ends before the last address, and so does its destination. -/
theorem bounds : move.low.toNat + 4 * index + 4 ≤ move.high.toNat ∧
    move.destination.toNat + 4 * index + 4 < addressCount := by
  have room := fits.room
  have ordered := fits.ordered
  rw [words, toNat_length ordered] at inside
  rw [toNat_length ordered] at room
  omega

theorem toNat_source : (move.source index).toNat = move.low.toNat + 4 * index := by
  have bounds := fits.bounds inside
  have last : move.high.toNat < addressCount := move.high.isLt
  exact toNat_add_words (by omega)

theorem toNat_target : (move.target index).toNat = move.destination.toNat + 4 * index := by
  have bounds := fits.bounds inside
  exact toNat_add_words (by omega)

end Fits

theorem direction_eq_skipped_iff :
    move.direction = .skipped ↔
      move.low = move.destination ∨
        addressCount ≤ move.destination.toNat + move.length.toNat := by
  unfold direction
  split
  next stays => exact iff_of_true rfl stays
  next goes =>
    refine iff_of_false ?_ goes
    split <;> nofun

theorem fits_of_direction (ordered : move.low.toNat ≤ move.high.toNat)
    (moves : move.direction ≠ .skipped) : move.Fits :=
  ⟨ordered, Nat.lt_of_not_le fun past => moves (direction_eq_skipped_iff.mpr (.inr past))⟩

theorem low_ne_destination (moves : move.direction ≠ .skipped) :
    move.low.toNat ≠ move.destination.toNat :=
  fun same => moves (direction_eq_skipped_iff.mpr (.inl (BitVec.eq_of_toNat_eq same)))

/-- A move that takes place runs downwards if the destination lies inside the block. -/
theorem direction_eq (moves : move.direction ≠ .skipped) :
    move.direction =
      if move.low < move.destination ∧ move.destination < move.high then .backward
      else .forward := by
  have apart := low_ne_destination moves
  have goes := mt direction_eq_skipped_iff.mpr moves
  rw [direction, if_neg goes]
  by_cases within : move.low < move.destination ∧ move.destination < move.high
  · rw [if_pos within, if_neg]
    rw [BitVec.lt_def, BitVec.lt_def] at within
    rw [BitVec.lt_def, BitVec.le_def]
    omega
  · rw [if_neg within, if_pos]
    rw [BitVec.lt_def, BitVec.lt_def] at within
    rw [BitVec.lt_def, BitVec.le_def]
    omega

/-! ### The order of the copies -/

/-- The words of a block in the order in which a move copies them. -/
def order (move : Move) : List Nat :=
  match move.direction with
  | .skipped => []
  | .forward => List.range move.words
  | .backward => (List.range move.words).reverse

theorem run_eq (move : Move) (memory : Memory) :
    move.run memory = move.order.foldl move.copyWord memory := by
  unfold run order
  cases move.direction <;> rfl

theorem mem_order (moves : move.direction ≠ .skipped) {index : Nat} :
    index ∈ move.order ↔ index < move.words := by
  unfold order
  cases how : move.direction with
  | skipped => exact absurd how moves
  | forward => exact List.mem_range
  | backward => exact List.mem_reverse.trans List.mem_range

/-- **Each word is read in time:** upwards from a destination below the block or behind it,
downwards from one inside. -/
theorem pairwise_inTime (ordered : move.low.toNat ≤ move.high.toNat)
    (moves : move.direction ≠ .skipped) : move.order.Pairwise move.InTime := by
  have fits := fits_of_direction ordered moves
  -- two copies that are in time have targets apart; the source depends on the direction
  have inTime : ∀ {early late}, early < move.words → late < move.words → early ≠ late →
      move.low.toNat + 4 * late ≠ move.destination.toNat + 4 * early → move.InTime early late := by
    intro early late early_inside late_inside different read
    refine ⟨fun same => ?_, fun same => ?_⟩
    · have equal := congrArg BitVec.toNat same
      rw [fits.toNat_source late_inside, fits.toNat_target early_inside] at equal
      exact read equal
    · have equal := congrArg BitVec.toNat same
      rw [fits.toNat_target late_inside, fits.toNat_target early_inside] at equal
      omega
  have apart := low_ne_destination moves
  have each := @mem_order move moves
  unfold order at each ⊢
  by_cases within : move.low < move.destination ∧ move.destination < move.high
  · rw [direction_eq moves, if_pos within] at each ⊢
    rw [BitVec.lt_def, BitVec.lt_def] at within
    refine (List.pairwise_reverse.mpr List.pairwise_lt_range).imp_of_mem
      fun early_listed late_listed descends => ?_
    refine inTime (each.mp early_listed) (each.mp late_listed) (Nat.ne_of_gt descends) ?_
    omega
  · rw [direction_eq moves, if_neg within] at each ⊢
    rw [BitVec.lt_def, BitVec.lt_def] at within
    refine List.pairwise_lt_range.imp_of_mem fun early_listed late_listed ascends => ?_
    have bounds := fits.bounds (each.mp late_listed)
    refine inTime (each.mp early_listed) (each.mp late_listed) (Nat.ne_of_lt ascends) ?_
    omega

end Move

/-! ### Relocations -/

/-- What has become of a memory when the block from `low` to `high` was to go to `destination`. -/
structure Memory.Relocated (memory : Memory) (low high destination : Word) (how : Relocation)
    (after : Memory) : Prop where
  /-- The destination holds the whole words of the block as they were. -/
  copied : how ≠ .skipped → ∀ index < (high.toNat - low.toNat) / 4,
    after.load (destination + BitVec.ofNat 64 (4 * index)) =
      memory.load (low + BitVec.ofNat 64 (4 * index))
  /-- The words outside of the destination are as they were. -/
  elsewhere : how ≠ .skipped → ∀ address : Word, address.toNat % 4 = 0 →
    ¬ (destination.toNat ≤ address.toNat ∧
      address.toNat < destination.toNat + 4 * ((high.toNat - low.toNat) / 4)) →
    after.load address = memory.load address
  /-- The words that are read and written are aligned and do not wrap around. -/
  inside : how ≠ .skipped → ∀ index < (high.toNat - low.toNat) / 4, ∀ base ∈ [low, destination],
    (base + BitVec.ofNat 64 (4 * index)).toNat = base.toNat + 4 * index ∧
      (base.toNat + 4 * index) % 4 = 0 ∧ base.toNat + 4 * index + 4 ≤ addressCount
  /-- The copy runs downwards exactly if the destination lies inside the block. -/
  direction : how ≠ .skipped →
    how = if low < destination ∧ destination < high then .backward else .forward
  /-- A block that stays where it is costs no word. -/
  skipped : how = .skipped → after = memory

theorem Move.between_eq {low high : Word} (ordered : low ≤ high) {first second : Word}
    (bounds : first = low ∧ second = high ∨ first = high ∧ second = low) (destination : Word) :
    Move.between first second destination = ⟨low, high, destination⟩ := by
  unfold Move.between
  rcases bounds with ⟨rfl, rfl⟩ | ⟨rfl, rfl⟩
  · rw [if_pos ordered]
  · by_cases same : first ≤ second
    · rw [if_pos same, BitVec.le_antisymm same ordered]
    · rw [if_neg same]

/-- **A relocation** moves the whole words of a block, however the destination overlaps it, and
leaves all others alone. The bounds may be given in either order. -/
theorem relocate_moves (low high destination : Word) (ordered : low ≤ high)
    (low_aligned : low.toNat % 4 = 0) (destination_aligned : destination.toNat % 4 = 0)
    (first second : Word) (bounds : first = low ∧ second = high ∨ first = high ∧ second = low)
    (memory : Memory) :
    memory.Relocated low high destination (relocate first second destination memory).1
      (relocate first second destination memory).2 := by
  unfold relocate
  rw [Move.between_eq ordered bounds]
  let move : Move := ⟨low, high, destination⟩
  have in_order : move.low.toNat ≤ move.high.toNat := BitVec.le_def.mp ordered
  have words : move.words = (high.toNat - low.toNat) / 4 := by
    rw [Move.words, Move.toNat_length in_order]
  have copies : ∀ moves : move.direction ≠ .skipped, _ := fun moves =>
    Move.load_copies (Move.pairwise_inTime in_order moves) memory
  refine ⟨fun moves index small => ?_, fun moves address _ outside => ?_,
    fun moves index small base which => ?_, Move.direction_eq, fun stays => ?_⟩
  · rw [← words] at small
    rw [Move.run_eq]
    exact (copies moves).1 index ((Move.mem_order moves).mpr small)
  · rw [Move.run_eq]
    refine (copies moves).2 address fun index listed same => outside ?_
    have small := (Move.mem_order moves).mp listed
    have reached := congrArg BitVec.toNat same
    rw [(Move.fits_of_direction in_order moves).toNat_target small] at reached
    rw [words] at small
    have from_destination : address.toNat = destination.toNat + 4 * index := reached
    omega
  · rw [← words] at small
    have fits := Move.fits_of_direction in_order moves
    have room := fits.bounds small
    have last : high.toNat < addressCount := high.isLt
    rcases List.mem_cons.mp which with rfl | which
    · exact ⟨fits.toNat_source small, by omega, Nat.le_of_lt (Nat.lt_of_le_of_lt room.1 last)⟩
    · obtain rfl := List.mem_singleton.mp which
      exact ⟨fits.toNat_target small, by omega, Nat.le_of_lt room.2⟩
  · have same : move.direction = .skipped := stays
    show move.run memory = memory
    rw [Move.run, same]

/-- Eleven bytes go four bytes up: the second word of the block is written over. -/
theorem relocate_moves_overlapping :
    (⟨fun address => address.setWidth 32⟩ : Memory).Relocated 8 19 12
      (relocate 19 8 12 ⟨fun address => address.setWidth 32⟩).1
      (relocate 19 8 12 ⟨fun address => address.setWidth 32⟩).2 :=
  relocate_moves 8 19 12 (by decide) (by decide) (by decide) 19 8 (.inr ⟨rfl, rfl⟩) _

/-- **A block stays where it is** if it is there already, or if its destination would end past the
last address. The end of a destination is the address behind it, so a destination that takes in the
last address is refused as well. -/
theorem relocate_skipped_iff (first second destination : Word) (memory : Memory) :
    (relocate first second destination memory).1 = .skipped ↔
      destination.toNat = min first.toNat second.toNat ∨
        addressCount ≤ destination.toNat +
          (max first.toNat second.toNat - min first.toNat second.toNat) := by
  have skips : ∀ {low high : Word}, low.toNat ≤ high.toNat →
      ((⟨low, high, destination⟩ : Move).direction = .skipped ↔
        destination.toNat = low.toNat ∨
          addressCount ≤ destination.toNat + (high.toNat - low.toNat)) := by
    intro low high ordered
    have length : (⟨low, high, destination⟩ : Move).length.toNat = high.toNat - low.toNat :=
      Move.toNat_length ordered
    rw [Move.direction_eq_skipped_iff, length, ← BitVec.toNat_inj, @eq_comm _ low.toNat]
  unfold relocate Move.between
  by_cases ordered : first ≤ second
  · have le := BitVec.le_def.mp ordered
    rw [if_pos ordered, Nat.min_eq_left le, Nat.max_eq_right le]
    exact skips le
  · have le := Nat.le_of_lt (BitVec.lt_def.mp (BitVec.not_le.mp ordered))
    rw [if_neg ordered, Nat.min_eq_right le, Nat.max_eq_left le]
    exact skips le

/-- **A destination that ends with the last address** is within the address space, and is refused:
eight bytes for the last eight addresses. -/
theorem relocate_refuses_last_address :
    ¬ ∀ (first second destination : Word) (memory : Memory),
      (relocate first second destination memory).1 = .skipped ↔
        destination.toNat = min first.toNat second.toNat ∨
          addressCount < destination.toNat +
            (max first.toNat second.toNat - min first.toNat second.toNat) := by
  intro names
  have refused := (names 0 8 0xFFFFFFFFFFFFFFF8 ⟨fun _ => 0⟩).mp (by decide)
  exact absurd refused (by decide)

end VectoredInterrupts
