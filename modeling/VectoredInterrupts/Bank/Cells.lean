/-
**Plain register banks.**

Two banks without side effects. `Cells` holds a 64-bit word at every offset. `MemoryBlock` is the
memory mapped block of a physical controller: 1024 words of 32 bits, of which an access uses the
one its offset falls in; a stored word loses its high half.
-/

import VectoredInterrupts.Bank.Basic
import Std.Data.TreeMap

namespace VectoredInterrupts

/-- Memory cells, one word at each offset. A cell that was never written reads as zero. -/
structure Cells where
  /-- The cells written so far. -/
  written : Std.TreeMap Nat Word

namespace Cells

/-- No cell is written. -/
def empty : Cells := ⟨∅⟩

instance : Inhabited Cells := ⟨empty⟩

/-- The word at an offset. -/
def get (cells : Cells) (offset : Nat) : Word := cells.written.getD offset 0

/-- The cells after a write. -/
def set (cells : Cells) (offset : Nat) (value : Word) : Cells := ⟨cells.written.insert offset value⟩

instance : RegisterBank Cells where
  read offset := fun cells => .ok (cells.get offset) cells
  write offset value := fun cells => .ok () (cells.set offset value)

end Cells

/-- A memory mapped register block. -/
structure MemoryBlock where
  /-- The words of the block. -/
  words : Vector (BitVec 32) 1024

namespace MemoryBlock

/-- A block of zeros. -/
def zeroed : MemoryBlock := ⟨Vector.replicate 1024 0⟩

instance : Inhabited MemoryBlock := ⟨zeroed⟩

/-- A read access. -/
def read (offset : Nat) : EStateM Fault MemoryBlock Word := fun block =>
  if inside : offset < Offset.blockSize then
    .ok ((block.words.get ⟨offset / 4, by simp only [Offset.blockSize] at inside; omega⟩).setWidth 64)
      block
  else .error (.offsetBeyondBlock offset) block

/-- A write access. -/
def write (offset : Nat) (value : Word) : EStateM Fault MemoryBlock Unit := fun block =>
  if inside : offset < Offset.blockSize then
    .ok ()
      ⟨block.words.set (offset / 4) (value.setWidth 32)
        (by simp only [Offset.blockSize] at inside; omega)⟩
  else .error (.offsetBeyondBlock offset) block

instance : RegisterBank MemoryBlock := ⟨read, write⟩

end MemoryBlock

end VectoredInterrupts
