import LintPlan.Json.Fault
/-!
# Places in JSON texts

A cursor is what is left of a text, with the place at which it starts. The readers of this library take a cursor and
give what they have read with the cursor behind it, or a fault.
-/

namespace LintPlan.Json

/-- The rest of a text from a place on. -/
structure Cursor where
  /-- What is left. -/
  rest : List Char
  /-- The place at which it starts. -/
  position : Position
  deriving DecidableEq, Repr

/-- Reads something from a cursor on. -/
abbrev Reading (α : Type) := Cursor → Except Fault (α × Cursor)

/-- The blanks of JSON. -/
def isJsonBlank (c : Char) : Bool := c == ' ' || c == '\n' || c == '\t' || c == '\r'

/-- What is left after blanks. -/
def afterBlanks (p : Position) : List Char → Cursor
  | [] => ⟨[], p⟩
  | c :: cs => if isJsonBlank c then afterBlanks (p.after c) cs else ⟨c :: cs, p⟩

namespace Cursor

/-- The cursor at the start of a text. -/
def ofText (cs : List Char) : Cursor := ⟨cs, .start⟩

/-- The cursor behind blanks. -/
def skipBlanks (c : Cursor) : Cursor := afterBlanks c.position c.rest

/-- The cursor behind one character. -/
def advance : Cursor → Cursor
  | ⟨[], p⟩ => ⟨[], p⟩
  | ⟨x :: rest, p⟩ => ⟨rest, p.after x⟩

/-- A fault that shows where the cursor is. -/
def fault (c : Cursor) (cause : Cause) : Fault := ⟨cause, c.position⟩

/-- A fault that shows behind the next byte, if there is one. -/
def faultAhead (c : Cursor) (cause : Cause) : Fault :=
  ⟨cause, match c.rest with
    | [] => c.position
    | x :: _ => c.position.afterByte x⟩

end Cursor

/-- Goes over a word of which at least the first character is there. -/
def passWord : (word : List Char) → Cursor → Except Fault Cursor
  | [], c => .ok c
  | w :: word, c =>
    match c.rest with
    | [] => .error (c.fault (.cutOff .value))
    | x :: _ => if x = w then passWord word c.advance else .error (c.faultAhead .noKeyword)

/-- Goes over the colon behind a key. -/
def passColon (c : Cursor) : Except Fault Cursor :=
  let c := c.skipBlanks
  match c.rest with
  | [] => .error (c.fault (.cutOff .object))
  | ':' :: _ => .ok c.advance
  | _ => .error (c.faultAhead .noColon)

/-- Goes on to the next item of a list: is there one? The cursor is then at the item, else at the closing bracket.
`first` is set at the start of the list. -/
def nextItem (first : Bool) (c : Cursor) : Except Fault (Bool × Cursor) :=
  let c := c.skipBlanks
  match c.rest with
  | [] => .error (c.fault (.cutOff .list))
  | ']' :: _ => .ok (false, c)
  | x :: _ =>
    if first then .ok (true, c)
    else if x = ',' then
      let c := c.advance.skipBlanks
      match c.rest with
      | [] => .error (c.fault (.cutOff .value))
      | ']' :: _ => .error (c.faultAhead .trailingComma)
      | _ => .ok (true, c)
    else .error (c.faultAhead .noListComma)

/-- Goes on to the next entry of an object: is there one? The cursor is then at the opening quote of its key, else at
the closing brace. `first` is set at the start of the object. -/
def nextEntry (first : Bool) (c : Cursor) : Except Fault (Bool × Cursor) :=
  let c := c.skipBlanks
  match c.rest with
  | [] => .error (c.fault (.cutOff .object))
  | '\x7d' :: _ => .ok (false, c)
  | x :: _ =>
    if first then if x = '"' then .ok (true, c) else .error (c.faultAhead .badKey)
    else if x = ',' then
      let c := c.advance.skipBlanks
      match c.rest with
      | [] => .error (c.fault (.cutOff .value))
      | '"' :: _ => .ok (true, c)
      | '\x7d' :: _ => .error (c.faultAhead .trailingComma)
      | _ => .error (c.faultAhead .badKey)
    else .error (c.faultAhead .noObjectComma)

end LintPlan.Json
