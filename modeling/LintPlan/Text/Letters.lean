import LintPlan.Text.Ranges
/-!
# Letters, digits and words

The classes of characters that the readers ask for. Every class knows the whole of Unicode; below
128 it is decided without a table. The classes of patterns, `isDecimal` and `isWordChar`, are those
of version 16 of the standard, the others those of version 17.
-/

namespace LintPlan.Text

/-- Is the code point in one of the ranges? -/
def inRanges (ranges : List (Nat × Nat)) (n : Nat) : Bool :=
  ranges.any fun r => r.1 ≤ n && n ≤ r.2

/-- A decimal digit of any script. -/
def isDecimal (c : Char) : Bool :=
  if c.toNat < 128 then c.isDigit else inRanges Ranges.decimalDigits c.toNat

/-- A letter of any script. -/
def isLetter (c : Char) : Bool :=
  if c.toNat < 128 then c.isAlpha
  else inRanges Ranges.alphabetic c.toNat || inRanges Ranges.addedLetters c.toNat

/-- A letter or a number of any script. -/
def isLetterOrNumber (c : Char) : Bool :=
  if c.toNat < 128 then c.isAlphanum
  else isLetter c || inRanges Ranges.decimalDigits c.toNat ||
    inRanges Ranges.otherNumbers c.toNat || inRanges Ranges.addedDigits c.toNat

/-- A character of a word: letters, marks, decimal digits, connectors and join controls. -/
def isWordChar (c : Char) : Bool :=
  if c.toNat < 128 then c.isAlphanum || c == '_'
  else inRanges Ranges.alphabetic c.toNat || inRanges Ranges.decimalDigits c.toNat ||
    inRanges Ranges.joiners c.toNat

/-- A character without a visible form of its own, the space apart. -/
def isHidden (c : Char) : Bool :=
  if c.toNat < 128 then c.toNat < 0x20 || c.toNat == 0x7F else inRanges Ranges.hidden c.toNat

end LintPlan.Text
