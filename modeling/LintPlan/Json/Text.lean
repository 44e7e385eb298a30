import LintPlan.Json.Cursor
import LintPlan.Text.Basic
/-!
# Texts in JSON

What stands between two quotes. A text that is read has to denote something: an escape for a unit from D800 to DBFF
needs one for a unit from DC00 to DFFF behind it, and neither of them may stand alone. A text that is passed over may
have such escapes in any order.
-/

namespace LintPlan.Json

/-! ## Escapes -/

/-- What a character behind a backslash stands for, unless a number follows it. -/
def simpleEscape (c : Char) : Option Char :=
  match c with
  | '"' => some '"'
  | '\\' => some '\\'
  | '/' => some '/'
  | 'b' => some (Char.ofNat 8)
  | 'f' => some (Char.ofNat 12)
  | 'n' => some '\n'
  | 'r' => some '\r'
  | 't' => some '\t'
  | _ => none

/-- The number of four hexadecimal digits. -/
def hexWord? (a b c d : Char) : Option Nat := do
  let a ← Text.hexValue a
  let b ← Text.hexValue b
  let c ← Text.hexValue c
  let d ← Text.hexValue d
  some (((a * 16 + b) * 16 + c) * 16 + d)

/-- Is it the first half of a surrogate pair? -/
def isFirstHalf (n : Nat) : Bool := 0xD800 ≤ n && n ≤ 0xDBFF

/-- Is it the second half of a surrogate pair? -/
def isSecondHalf (n : Nat) : Bool := 0xDC00 ≤ n && n ≤ 0xDFFF

/-- The character of a surrogate pair. -/
def ofHalves (first second : Nat) : Char :=
  Char.ofNat (0x10000 + (first - 0xD800) * 0x400 + (second - 0xDC00))

/-- The fault of an escape that wants more bytes for its digits: the text ends before that, or the bytes are no
digits. -/
def digitsFault : (bytes : Nat) → Position → List Char → Fault
  | 0, p, _ => ⟨.badEscape, p⟩
  | _ + 1, p, [] => ⟨.cutOff .text, p⟩
  | bytes + 1, p, c :: cs =>
    if c.utf8Size ≤ bytes + 1 then digitsFault (bytes + 1 - c.utf8Size) (p.after c) cs
    else ⟨.badEscape, p.plus (bytes + 1)⟩

/-- The fault of an escape for a first half behind which no escape for a second half can be read. -/
def firstHalfFault (p : Position) : List Char → Fault
  | [] => ⟨.cutOff .text, p⟩
  | ['\\'] => ⟨.cutOff .text, p.plus 1⟩
  | '\\' :: 'u' :: cs => digitsFault 4 (p.plus 2) cs
  | '\\' :: c :: _ => ⟨.noSecondHalf, (p.plus 1).afterByte c⟩
  | c :: _ => ⟨.noSecondHalf, p.afterByte c⟩

/-- The fault of a backslash that starts no escape. -/
def escapeFault (p : Position) : List Char → Fault
  | [] => ⟨.cutOff .text, p.plus 1⟩
  | 'u' :: cs => digitsFault 4 (p.plus 2) cs
  | c :: _ => ⟨.badEscape, (p.plus 1).afterByte c⟩

/-! ## Reading and passing over -/

/-- The characters of a text up to its closing quote, behind those that are read already, the last one first. -/
def readChars (done : List Char) (p : Position) : List Char → Except Fault (List Char × Cursor)
  | [] => .error ⟨.cutOff .text, p⟩
  | '"' :: rest => .ok (done.reverse, ⟨rest, p.plus 1⟩)
  | '\\' :: 'u' :: a :: b :: c :: d :: rest =>
    match hexWord? a b c d with
    | none => .error (digitsFault 4 (p.plus 2) (a :: b :: c :: d :: rest))
    | some n =>
      if isSecondHalf n then .error ⟨.loneSurrogate, p.plus 6⟩
      else if isFirstHalf n then
        match rest with
        | '\\' :: 'u' :: e :: f :: g :: h :: rest =>
          match hexWord? e f g h with
          | none => .error (digitsFault 4 (p.plus 8) (e :: f :: g :: h :: rest))
          | some m =>
            if isSecondHalf m then readChars (ofHalves n m :: done) (p.plus 12) rest
            else .error ⟨.loneSurrogate, p.plus 12⟩
        | rest => .error (firstHalfFault (p.plus 6) rest)
      else readChars (Char.ofNat n :: done) (p.plus 6) rest
  | '\\' :: c :: rest =>
    match simpleEscape c with
    | some x => readChars (x :: done) (p.plus 2) rest
    | none => .error (escapeFault p (c :: rest))
  | c :: rest =>
    if c = '\\' then .error (escapeFault p rest)
    else if c.toNat < 0x20 then .error ⟨.controlCharacter, p.afterByte c⟩
    else readChars (c :: done) (p.after c) rest

/-- A text; the cursor is at its opening quote. -/
def readText : Reading String := fun c =>
  match readChars [] (c.position.plus 1) c.rest.tail with
  | .ok (cs, c) => .ok (String.ofList cs, c)
  | .error fault => .error fault

/-- Goes over a text up to its closing quote. -/
def passChars (p : Position) : List Char → Except Fault Cursor
  | [] => .error ⟨.cutOff .text, p⟩
  | '"' :: rest => .ok ⟨rest, p.plus 1⟩
  | '\\' :: 'u' :: a :: b :: c :: d :: rest =>
    match hexWord? a b c d with
    | none => .error (digitsFault 4 (p.plus 2) (a :: b :: c :: d :: rest))
    | some _ => passChars (p.plus 6) rest
  | '\\' :: c :: rest =>
    match simpleEscape c with
    | some _ => passChars (p.plus 2) rest
    | none => .error (escapeFault p (c :: rest))
  | c :: rest =>
    if c = '\\' then .error (escapeFault p rest)
    else if c.toNat < 0x20 then .error ⟨.controlCharacter, p⟩
    else passChars (p.after c) rest

/-- Goes over a text; the cursor is at its opening quote. -/
def passText (c : Cursor) : Except Fault Cursor := passChars (c.position.plus 1) c.rest.tail

end LintPlan.Json
