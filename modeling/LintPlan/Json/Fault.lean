import LintPlan.Json.Printer
import LintPlan.Text.Quoted
/-!
# Faults of JSON texts

Why a text is not the JSON document that is wanted, and the place where that shows: a line, counted from one, and the
number of bytes of that line up to the place.
-/

namespace LintPlan.Json

/-! ## Places -/

/-- A place between two bytes of a text. -/
structure Position where
  /-- The line, counted from one. -/
  line : Nat
  /-- The number of bytes from the start of the line. -/
  column : Nat
  deriving DecidableEq, Repr

namespace Position

/-- The place at the start of a text. -/
def start : Position := ⟨1, 0⟩

/-- The place some bytes later on the same line. -/
def plus (p : Position) (bytes : Nat) : Position := ⟨p.line, p.column + bytes⟩

/-- The place after a character. -/
def after (p : Position) (c : Char) : Position := if c = '\n' then ⟨p.line + 1, 0⟩ else p.plus c.utf8Size

/-- The place after the first byte of a character. -/
def afterByte (p : Position) (c : Char) : Position := if c = '\n' then ⟨p.line + 1, 0⟩ else p.plus 1

end Position

/-! ## Causes -/

/-- What a text holds, as messages name it: scalars with their values, lists and objects without what is in them. -/
inductive Found where
  | null
  | bool (b : Bool)
  | integer (i : Int)
  | float (x : Binary64)
  | text (s : String)
  | list
  | object
  deriving DecidableEq, Repr

namespace Found

/-- What a value is named. -/
def ofJson : Json → Found
  | .null => null
  | .bool b => bool b
  | .int i => integer i
  | .float x => float x
  | .str s => text s
  | .arr _ => list
  | .obj _ => object
  | .date => null

/-- The words for what is found. -/
def words : Found → String
  | null => "null"
  | bool b => "boolean `" ++ (if b then "true" else "false") ++ "`"
  | integer i => "integer `" ++ String.ofList (intText i) ++ "`"
  | float x => "floating point `" ++ String.ofList (floatText x) ++ "`"
  | text s => "string " ++ Text.quoted s
  | list => "sequence"
  | object => "map"

end Found

/-- What a text may end in too early. -/
inductive Part where
  | list | object | text | value
  deriving DecidableEq, Repr

/-- The words for a part. -/
def Part.words : Part → String
  | list => "a list"
  | object => "an object"
  | text => "a string"
  | value => "a value"

/-- Why a text is not the document that is wanted. -/
inductive Cause where
  /-- The text ends within a part. -/
  | cutOff (part : Part)
  /-- No colon follows a key. -/
  | noColon
  /-- Neither a comma nor the end follows an item. -/
  | noListComma
  /-- Neither a comma nor the end follows an entry. -/
  | noObjectComma
  /-- A word starts like `null`, `true` or `false` and is none of them. -/
  | noKeyword
  /-- What stands there starts no value. -/
  | noValue
  /-- A backslash in a text starts no escape. -/
  | badEscape
  /-- A number goes on in a way that none does. -/
  | badNumber
  /-- A number is beyond the range of `Binary64`. -/
  | outOfRange
  /-- A text has a control character. -/
  | controlCharacter
  /-- A key is no text. -/
  | badKey
  /-- Half of a surrogate pair stands alone. -/
  | loneSurrogate
  /-- The second half of a surrogate pair is missing. -/
  | noSecondHalf
  /-- A comma stands at the end of a list or an object. -/
  | trailingComma
  /-- Something follows where nothing may follow. -/
  | trailingText
  /-- Lists and objects nest too deep. -/
  | tooDeep
  /-- A value is of another type than the one that is wanted. -/
  | wrongType (found : Found) (wanted : String)
  /-- A value is of the type that is wanted, and not in its range. -/
  | wrongValue (found : Found) (wanted : String)
  /-- A list ends before a field that has to be there. -/
  | wrongLength (length : Nat) (wanted : String)
  /-- A field that has to be there is missing. -/
  | missingField (name : String)
  /-- A field is there twice. -/
  | repeatedField (name : String)
  deriving DecidableEq, Repr

namespace Cause

/-- The words for a cause. -/
def words : Cause → String
  | cutOff part => "EOF while parsing " ++ part.words
  | noColon => "expected `:`"
  | noListComma => "expected `,` or `]`"
  | noObjectComma => "expected `,` or `\x7d`"
  | noKeyword => "expected ident"
  | noValue => "expected value"
  | badEscape => "invalid escape"
  | badNumber => "invalid number"
  | outOfRange => "number out of range"
  | controlCharacter => "control character (\\u0000-\\u001F) found while parsing a string"
  | badKey => "key must be a string"
  | loneSurrogate => "lone leading surrogate in hex escape"
  | noSecondHalf => "unexpected end of hex escape"
  | trailingComma => "trailing comma"
  | trailingText => "trailing characters"
  | tooDeep => "recursion limit exceeded"
  | wrongType found wanted => "invalid type: " ++ found.words ++ ", expected " ++ wanted
  | wrongValue found wanted => "invalid value: " ++ found.words ++ ", expected " ++ wanted
  | wrongLength length wanted => "invalid length " ++ toString length ++ ", expected " ++ wanted
  | missingField name => "missing field `" ++ name ++ "`"
  | repeatedField name => "duplicate field `" ++ name ++ "`"

end Cause

/-- Why a text is not the document that is wanted, with the place where that shows. -/
structure Fault where
  cause : Cause
  position : Position
  deriving DecidableEq, Repr

/-- The wording of a fault. -/
def Fault.message (f : Fault) : String :=
  f.cause.words ++ " at line " ++ toString f.position.line ++ " column " ++ toString f.position.column

end LintPlan.Json
