import LintPlan.Text.Bytes
/-!
# Lines of a pipe

How the bytes that a process writes become lines. A line feed ends a line, and a carriage return in front of it
belongs to the end; bytes behind the last line feed are a line too. Reading stops for good at a line that is no
text.

Main statement: `flatten_pieces`, nothing is lost or added where bytes are cut into lines.
-/

namespace LintPlan.Pipe

/-- The byte that ends a line. -/
def lineFeed : UInt8 := 10

/-- The byte that may stand in front of it. -/
def carriageReturn : UInt8 := 13

/-- The lines of some bytes, each with its line feed if it has one. -/
def pieces : List UInt8 → List (List UInt8)
  | [] => []
  | b :: rest =>
    if b = lineFeed then [b] :: pieces rest
    else match pieces rest with
      | [] => [[b]]
      | piece :: more => (b :: piece) :: more

/-- A line without its end. -/
def withoutEnd (piece : List UInt8) : List UInt8 :=
  match piece.reverse with
  | a :: b :: front =>
    if a = lineFeed then (if b = carriageReturn then front else b :: front).reverse else piece
  | [a] => if a = lineFeed then [] else piece
  | [] => piece

/-- The text of a line, if it is one. -/
def text? (piece : List UInt8) : Option String := Text.ofBytes? (withoutEnd piece)

/-- The texts of lines, up to the first line that is no text. -/
def texts : List (List UInt8) → List String
  | [] => []
  | piece :: more =>
    match text? piece with
    | some line => line :: texts more
    | none => []

/-- The lines that are read of some bytes. -/
def lines (bytes : List UInt8) : List String := texts (pieces bytes)

theorem flatten_pieces (bytes : List UInt8) : (pieces bytes).flatten = bytes := by
  induction bytes with
  | nil => rfl
  | cons b rest ih =>
    unfold pieces
    split
    · simp [ih]
    · split
      · rename_i h
        rw [h] at ih
        simp_all
      · rename_i h
        rw [h] at ih
        simpa using ih

end LintPlan.Pipe
