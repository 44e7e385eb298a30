import LintPlan.Text.Ranges
/-!
# Upper and lower case

Two characters are the same letter if they have the same simple case folding. For comparing with
words of ASCII letters, `lower` gives the lower case that can matter: that of the letters whose lower
case contains an ASCII letter.
-/

namespace LintPlan.Text

/-- Simple case folding by the table, for code points beyond ASCII. -/
def foldByTable (n : Nat) : Nat :=
  match Ranges.foldings.find? fun r => r.1 ≤ n && n ≤ r.2.1 && (n - r.1) % r.2.2.1 == 0 with
  | some r => r.2.2.2 + (n - r.1)
  | none => n

/-- Simple case folding: one character for all cases of a letter. -/
def fold (c : Char) : Char :=
  if c.toNat < 128 then c.toLower else Char.ofNat (foldByTable c.toNat)

/-- Are the two characters cases of one letter? -/
def sameLetter (a b : Char) : Bool := fold a == fold b

/-- Lower case, with the letters beyond ASCII kept unless their lower case contains an ASCII letter:
U+0130 is `i` with a dot above, and U+212A, the sign for kelvin, is `k`. A lower-case word of ASCII
letters occurs in this form of a text exactly if it occurs in the text's lower case. -/
def lower (cs : List Char) : List Char :=
  cs.flatMap fun c =>
    if c == '\u0130' then ['i', '\u0307'] else if c == '\u212A' then ['k'] else [c.toLower]

/-- Lower case of the ASCII letters; every other character is kept. -/
def lowerAscii (s : String) : String := String.ofList (s.toList.map Char.toLower)

/-- Upper case of the ASCII letters; every other character is kept. -/
def upperAscii (s : String) : String := String.ofList (s.toList.map Char.toUpper)

/-- What is left of `cs` after `word` in any case. -/
def afterWord : (word cs : List Char) → Option (List Char)
  | [], cs => some cs
  | _ :: _, [] => none
  | w :: word, c :: cs => if sameLetter w c then afterWord word cs else none

end LintPlan.Text
