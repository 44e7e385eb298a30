import LintPlan.Toml.Fault
/-!
# Readers for TOML

A reader takes something from the front of a text, or refuses. A refusal that is final ends the reading of the document;
after any other one something else may be tried at the same place.
-/

namespace LintPlan.Toml

/-- Why a reader takes nothing from a text. -/
structure Refusal where
  /-- What is wrong. -/
  fault : Fault
  /-- May nothing else be tried? -/
  final : Bool
  deriving DecidableEq, Repr

/-- Takes something from the front of a text: what was read, and what is left. -/
abbrev Reading (α : Type) := List Char → Except Refusal (α × List Char)

/-- A refusal after which something else may be tried. -/
def Refusal.mild (fault : Fault) : Refusal := ⟨fault, false⟩

/-- A refusal that is final. -/
def Refusal.hard (fault : Fault) : Refusal := ⟨fault, true⟩

namespace Reading

variable {α β : Type}

/-- The reader with other faults. -/
def blaming (change : Fault → Fault) (r : Reading α) : Reading α :=
  fun cs => (r cs).mapError fun e => { e with fault := change e.fault }

/-- The reader with a label for its faults. -/
def labelled (label : String) (r : Reading α) : Reading α := r.blaming (Fault.labelled label)

/-- The reader with what might have stood where it refuses. -/
def wanting (expected : List String) (r : Reading α) : Reading α := r.blaming (Fault.wanting expected)

/-- The reader with refusals that are final. -/
def sure (r : Reading α) : Reading α := fun cs => (r cs).mapError fun e => { e with final := true }

/-- The reader with another result. -/
def mapped (f : α → β) (r : Reading α) : Reading β := fun cs => (r cs).map fun p => (f p.1, p.2)

/-- What the first reader takes, or else the second one. -/
def orElse (r s : Reading α) : Reading α := fun cs =>
  match r cs with
  | .error ⟨_, false⟩ => s cs
  | result => result

/-- What the reader takes, if it takes something. -/
def option (r : Reading α) : Reading (Option α) := fun cs =>
  match r cs with
  | .error ⟨_, false⟩ => .ok (none, cs)
  | .error e => .error e
  | .ok (v, rest) => .ok (some v, rest)

end Reading

/-! ## Characters -/

/-- Takes a character with a property. -/
def oneOf (p : Char → Bool) : Reading Char
  | c :: rest => if p c then .ok (c, rest) else .error (.mild {})
  | [] => .error (.mild {})

/-- Takes a given text. -/
def exactly (text : String) : Reading Unit := fun cs =>
  match Text.after text.toList cs with
  | some rest => .ok ((), rest)
  | none => .error (.mild {})

/-- A character that may stand in comments and, unless it is a mark, in texts. -/
def isPlain (c : Char) : Bool :=
  c == '\t' || (0x20 ≤ c.toNat && c.toNat ≤ 0x7E) || 0x80 ≤ c.toNat

/-- A blank on a line. -/
def isLineBlank (c : Char) : Bool := c == ' ' || c == '\t'

/-- The text after blanks on the line. -/
def skipBlanks (cs : List Char) : List Char := cs.dropWhile isLineBlank

/-- The text after blanks and newlines; a carriage return counts only in front of a newline. -/
def dropLayout : List Char → List Char
  | [] => []
  | '\r' :: '\n' :: rest => dropLayout rest
  | c :: rest => if isLineBlank c || c == '\n' then dropLayout rest else c :: rest

/-- The text after blanks, newlines and comments. -/
def skipLayout : (fuel : Nat) → List Char → List Char
  | 0, cs => cs
  | fuel + 1, cs =>
    match dropLayout cs with
    | '#' :: rest => skipLayout fuel (rest.dropWhile isPlain)
    | rest => rest

/-- Takes a newline. -/
def newline : Reading Unit
  | '\n' :: rest => .ok ((), rest)
  | '\r' :: '\n' :: rest => .ok ((), rest)
  | _ => .error (.mild {})

/-- Takes the end of a line, with blanks and a comment in front of it. -/
def endLine : Reading Unit := fun cs =>
  let rest := match skipBlanks cs with
    | '#' :: comment => comment.dropWhile isPlain
    | rest => rest
  if rest.isEmpty then .ok ((), []) else newline rest

/-- Takes the end of a line behind a statement. -/
def endStatement : Reading Unit := endLine.wanting ["newline", "`#`"]

end LintPlan.Toml
