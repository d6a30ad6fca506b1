/-
**Relocation of a block of words.**

The vector block is copied to the place the processor fetches it from. The copy runs upwards unless
the destination lies inside the block, in which case it runs downwards, so that no word is written
over before it is read. A block stays where it is if it is there already, or if the end of its
destination would lie past the last address.
-/

import VectoredInterrupts.Word

namespace VectoredInterrupts

/-- The number of addresses. -/
def addressCount : Nat := 0x10000000000000000

/-- Memory that is accessed in words of 32 bits. -/
structure Memory where
  /-- The word at an address. -/
  load : Word → BitVec 32

/-- The memory after a word was stored. -/
def Memory.store (memory : Memory) (address : Word) (value : BitVec 32) : Memory :=
  ⟨fun other => if other = address then value else memory.load other⟩

theorem Memory.load_store (memory : Memory) (address other : Word) (value : BitVec 32) :
    (memory.store address value).load other =
      if other = address then value else memory.load other :=
  rfl

/-- How a block was moved. -/
inductive Relocation where
  /-- Nothing was written. -/
  | skipped
  /-- From low to high addresses. -/
  | forward
  /-- From high to low addresses. -/
  | backward
deriving DecidableEq

/-- A block of memory, and where it goes. -/
structure Move where
  /-- Start of the block. -/
  low : Word
  /-- End of the block. -/
  high : Word
  /-- Start of the destination. -/
  destination : Word
deriving DecidableEq

namespace Move

/-- The move of the block between two bounds, which may be given in either order. -/
def between (first second destination : Word) : Move :=
  if first ≤ second then ⟨first, second, destination⟩ else ⟨second, first, destination⟩

/-- The length of the block. -/
def length (move : Move) : Word := move.high - move.low

/-- The number of whole words in the block. -/
def words (move : Move) : Nat := move.length.toNat / 4

/-- How a block is moved. The end of the destination has to be an address. -/
def direction (move : Move) : Relocation :=
  if move.low = move.destination ∨ addressCount ≤ move.destination.toNat + move.length.toNat then
    .skipped
  else if move.destination < move.low ∨ move.high ≤ move.destination then .forward
  else .backward

/-- The memory after the word at an index was copied. -/
def copyWord (move : Move) (memory : Memory) (index : Nat) : Memory :=
  memory.store (move.destination + BitVec.ofNat 64 (4 * index))
    (memory.load (move.low + BitVec.ofNat 64 (4 * index)))

/-- The memory after the move. -/
def run (move : Move) (memory : Memory) : Memory :=
  match move.direction with
  | .skipped => memory
  | .forward => (List.range move.words).foldl move.copyWord memory
  | .backward => (List.range move.words).reverse.foldl move.copyWord memory

end Move

/-- Copies the words of a block. The bounds may be given in either order. -/
def relocate (first second destination : Word) (memory : Memory) : Relocation × Memory :=
  ((Move.between first second destination).direction,
    (Move.between first second destination).run memory)

/-- The address the processor fetches its exception vectors from. -/
def vectorsAddress : Word := 0

end VectoredInterrupts
