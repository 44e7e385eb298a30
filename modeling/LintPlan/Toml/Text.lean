import LintPlan.Toml.Reading
/-!
# Texts of TOML

Texts in quotes or apostrophes, over one line or several. The readers start behind the opening mark.
-/

namespace LintPlan.Toml

/-! ## Escapes -/

/-- The number of hexadecimal digits. -/
def hexNumber (cs : List Char) : Option Nat :=
  cs.foldlM (fun n c => (Text.hexValue c).map fun d => 16 * n + d) 0

/-- The character with a number, unless it is half of a surrogate pair or none at all. -/
def charOf? (n : Nat) : Option Char :=
  if n < 0xD800 ∨ (0xDFFF < n ∧ n ≤ 0x10FFFF) then some (Char.ofNat n) else none

/-- Takes a character by its number in hexadecimal of a fixed width. -/
def numbered (width : Nat) : Reading Char := fun cs =>
  let digits := cs.take width
  match hexNumber digits with
  | none => .error (.hard {})
  | some n =>
    if digits.length ≠ width then .error (.hard {})
    else match charOf? n with
      | some c => .ok (c, cs.drop width)
      | none => .error (.hard (.of .outOfRange))

/-- The escapes of one character behind the backslash. -/
def simpleEscapes : List (Char × Char) :=
  [('b', Char.ofNat 8), ('f', Char.ofNat 12), ('n', '\n'), ('r', '\r'), ('t', '\t'), ('\\', '\\'), ('"', '"')]

/-- What may follow a backslash, as messages say it. -/
def escapeMarks : List String := ["`b`", "`f`", "`n`", "`r`", "`t`", "`u`", "`U`", "`\\`", "`\"`"]

/-- Takes the character of an escape, behind its backslash. -/
def escape : Reading Char
  | [] => .error (.mild {})
  | 'u' :: rest => (numbered 4).labelled "unicode 4-digit hex code" rest
  | 'U' :: rest => (numbered 8).labelled "unicode 8-digit hex code" rest
  | c :: rest =>
    match simpleEscapes.lookup c with
    | some x => .ok (x, rest)
    | none => .error (.hard { label := some "escape sequence", expected := escapeMarks })

/-! ## Texts on one line -/

/-- Takes a text up to its closing quote, behind the characters that were taken already, the last one first. -/
def quoted : (fuel : Nat) → (done : List Char) → Reading (List Char)
  | 0, _, _ => .error (.hard { label := some "basic string" })
  | _ + 1, done, '"' :: rest => .ok (done.reverse, rest)
  | fuel + 1, done, '\\' :: rest =>
    match escape rest with
    | .ok (c, rest) => quoted fuel (c :: done) rest
    | .error e => .error (.hard (if e.final then e.fault else { label := some "basic string" }))
  | fuel + 1, done, c :: rest =>
    if isPlain c then quoted fuel (c :: done) rest else .error (.hard { label := some "basic string" })
  | _ + 1, _, [] => .error (.hard { label := some "basic string" })

/-- Takes a text up to its closing apostrophe. -/
def literal : Reading (List Char) := fun cs =>
  let inText := fun c => isPlain c && c != '\''
  match cs.dropWhile inText with
  | '\'' :: rest => .ok (cs.takeWhile inText, rest)
  | _ => .error (.hard { label := some "literal string" })

/-! ## Texts over several lines -/

/-- The text after a newline at its start, if there is one. -/
def dropNewline (cs : List Char) : List Char := ((newline cs).toOption.map (·.2)).getD cs

/-- What follows a backslash at the end of a line: the next line that is not blank. -/
def continuation (cs : List Char) : Option (List Char) :=
  (newline (skipBlanks cs)).toOption.map fun r => dropLayout r.2

/-- Takes a text over several lines up to three marks in a row, behind the characters that were taken already, the last
one first. One or two marks in front of the closing ones belong to the text. Newlines are `\n`. Escapes count only if
`escapes` is set. -/
def lines (label : String) (mark : Char) (escapes : Bool) : (fuel : Nat) → (done : List Char) →
    Reading (List Char)
  | 0, _, _ => .error (.hard { label := some label })
  | _ + 1, _, [] => .error (.hard { label := some label })
  | fuel + 1, done, c :: rest =>
    if c = mark then
      let run := 1 + (rest.takeWhile (· == mark)).length
      if run < 3 then lines label mark escapes fuel (List.replicate run mark ++ done) (rest.drop (run - 1))
      else
        let inside := min (run - 3) 2
        .ok ((List.replicate inside mark ++ done).reverse, rest.drop (inside + 2))
    else if c = '\\' ∧ escapes then
      match continuation rest with
      | some rest => lines label mark escapes fuel done rest
      | none =>
        match escape rest with
        | .ok (c, rest) => lines label mark escapes fuel (c :: done) rest
        | .error e => .error (.hard (if e.final then e.fault else { label := some label }))
    else if c = '\n' then lines label mark escapes fuel ('\n' :: done) rest
    else if c = '\r' then
      match rest with
      | '\n' :: rest => lines label mark escapes fuel ('\n' :: done) rest
      | _ => .error (.hard { label := some label })
    else if isPlain c then lines label mark escapes fuel (c :: done) rest
    else .error (.hard { label := some label })

/-- Takes a text of any kind, with its opening mark. `fuel` is more than the number of characters. -/
def text (fuel : Nat) : Reading String :=
  Reading.mapped String.ofList fun cs =>
    match cs with
    | '"' :: '"' :: '"' :: rest => lines "multiline basic string" '"' true fuel [] (dropNewline rest)
    | '\'' :: '\'' :: '\'' :: rest => lines "multiline literal string" '\'' false fuel [] (dropNewline rest)
    | '"' :: rest => quoted fuel [] rest
    | '\'' :: rest => literal rest
    | _ => .error (.mild {})

end LintPlan.Toml
