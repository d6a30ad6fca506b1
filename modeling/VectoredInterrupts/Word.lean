/-
**Words and line sets.**

A register access carries a 64-bit word. The controller serves 32 request lines, so its status and
enable registers are sets of lines, held as 32-bit vectors: line `n` is a member when bit `n` is
set. A word names the lines of its low half (`Word.lines`), and a set of lines is widened with
zeros when it is read back (`LineSet.word`).
-/

namespace VectoredInterrupts

/-- What one register access carries. -/
abbrev Word := BitVec 64

/-- A set of request lines. -/
abbrev LineSet := BitVec 32

/-- The status word of the processor. -/
abbrev StatusWord := BitVec 32

/-- A byte, such as a priority. -/
abbrev Byte := BitVec 8

/-- Request lines served by the controller. -/
def lineCount : Nat := 32

/-- Vector slots of the controller. -/
def slotCount : Nat := 16

/-- Every request line, as a word. -/
def allLines : Word := 0xFFFFFFFF

/-- The lines that a written word names: its low 32 bits. -/
def Word.lines (word : Word) : LineSet := word.setWidth 32

/-- A set of lines as a register presents it. -/
def LineSet.word (lines : LineSet) : Word := lines.setWidth 64

theorem LineSet.lines_word (lines : LineSet) : lines.word.lines = lines := by
  unfold LineSet.word Word.lines
  rw [BitVec.setWidth_setWidth_of_le _ (by decide), BitVec.setWidth_eq]

theorem Word.getLsbD_lines (word : Word) (line : Nat) (small : line < 32) :
    word.lines.getLsbD line = word.getLsbD line := by
  simp [Word.lines, small]

/-- Hexadecimal text of a number, lower case and without leading zeros. -/
def hex (value : Nat) : String := "0x" ++ String.ofList (Nat.toDigits 16 value)

end VectoredInterrupts
