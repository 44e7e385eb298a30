import LintPlan.Number.Shortest
import LintPlan.Json.Basic
/-!
# Writing JSON

Two layouts of one value: `compact`, without blanks, and `pretty`, with two blanks for each level and a
line for each item. Both write the same scalars.
-/

namespace LintPlan.Json

/-- Two lower-case hexadecimal digits. -/
def hexPair (n : Nat) : List Char := [Nat.digitChar (n / 16), Nat.digitChar (n % 16)]

/-- One character of a text between quotes: quotes, backslashes and the controls below the blank are
escaped, everything else stands for itself. -/
def escaped (c : Char) : List Char :=
  if c == '"' then ['\\', '"']
  else if c == '\\' then ['\\', '\\']
  else if c.toNat == 8 then ['\\', 'b']
  else if c.toNat == 12 then ['\\', 'f']
  else if c == '\n' then ['\\', 'n']
  else if c == '\r' then ['\\', 'r']
  else if c == '\t' then ['\\', 't']
  else if c.toNat < 0x20 then ['\\', 'u', '0', '0'] ++ hexPair c.toNat
  else [c]

/-- A text between quotes. -/
def quotedText (s : String) : List Char := '"' :: s.toList.flatMap escaped ++ ['"']

/-- The shortest text of a finite number; there is no number for the others. -/
def floatText : Binary64 → List Char
  | .finite s m e => Binary64.signed s (Decimal.shortest m e).brief
  | _ => "null".toList

/-- An integer in decimal. -/
def intText (i : Int) : List Char := Binary64.signed (decide (i < 0)) (Text.numeral i.natAbs)

mutual

/-- A value without blanks between its parts. -/
def compactChars : Json → List Char
  | .null => "null".toList
  | .bool b => (if b then "true" else "false").toList
  | .int i => intText i
  | .float x => floatText x
  | .str s => quotedText s
  | .arr items => '[' :: compactItems items ++ [']']
  | .obj entries => '\x7b' :: compactEntries entries ++ ['\x7d']
  | .date => "null".toList

/-- Items with commas between them. -/
def compactItems : List Json → List Char
  | [] => []
  | [j] => compactChars j
  | j :: js => compactChars j ++ ',' :: compactItems js

/-- Entries with commas between them. -/
def compactEntries : List (String × Json) → List Char
  | [] => []
  | [(k, j)] => quotedText k ++ ':' :: compactChars j
  | (k, j) :: rest => quotedText k ++ ':' :: compactChars j ++ ',' :: compactEntries rest

end

/-- A value on one line without blanks. -/
def compact (j : Json) : String := String.ofList (compactChars j)

/-- A new line at a level of indentation. -/
def newLine (level : Nat) : List Char := '\n' :: List.replicate (2 * level) ' '

mutual

/-- A value whose items and entries stand on lines of their own, at the given level. -/
def prettyChars (level : Nat) : Json → List Char
  | .arr [] => ['[', ']']
  | .arr (j :: js) => '[' :: prettyItems (level + 1) (j :: js) ++ newLine level ++ [']']
  | .obj [] => ['\x7b', '\x7d']
  | .obj (e :: es) =>
    '\x7b' :: prettyEntries (level + 1) (e :: es) ++ newLine level ++ ['\x7d']
  | .null => "null".toList
  | .bool b => (if b then "true" else "false").toList
  | .int i => intText i
  | .float x => floatText x
  | .str s => quotedText s
  | .date => "null".toList

/-- Items, each on its line. -/
def prettyItems (level : Nat) : List Json → List Char
  | [] => []
  | [j] => newLine level ++ prettyChars level j
  | j :: js => newLine level ++ prettyChars level j ++ ',' :: prettyItems level js

/-- Entries, each on its line. -/
def prettyEntries (level : Nat) : List (String × Json) → List Char
  | [] => []
  | [(k, j)] => newLine level ++ quotedText k ++ ':' :: ' ' :: prettyChars level j
  | (k, j) :: rest =>
    newLine level ++ quotedText k ++ ':' :: ' ' :: prettyChars level j ++
      ',' :: prettyEntries level rest

end

/-- A value over several lines. -/
def pretty (j : Json) : String := String.ofList (prettyChars 0 j)

end LintPlan.Json
