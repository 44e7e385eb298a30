import LintPlan.Text.Basic
/-!
# Faults of TOML documents

Why a text is no TOML document: what could not be read, what might have stood there instead, and what is wrong with it
otherwise. Not every fault says all three.
-/

namespace LintPlan.Toml

/-- What is wrong with something that is well formed in itself. -/
inductive Cause where
  /-- A part of a date or a time, or the number of a character, is out of range. -/
  | outOfRange
  /-- An integer is too large. -/
  | tooLarge
  /-- An integer is too small. -/
  | tooSmall
  /-- Lists, tables in braces or the names of a key nest too deep. -/
  | tooDeep
  /-- A key is there already, or its table may get no more keys. -/
  | repeatedKey (key : String)
  /-- A key is there already in the table with a heading. -/
  | repeatedKeyIn (table : List String) (key : String)
  /-- A key leads through a value that is no table. -/
  | noTable (path : List String) (kind : String)
  /-- A text is marked as a date and is none. -/
  | noDate
  /-- A value is marked as a date and is no text. -/
  | noDateText (found : String)
  deriving DecidableEq, Repr

namespace Cause

/-- Names with dots between them. -/
def dotted (names : List String) : String := Text.joined "." names

/-- The words for a cause. -/
def words : Cause → String
  | outOfRange => "value is out of range"
  | tooLarge => "number too large to fit in target type"
  | tooSmall => "number too small to fit in target type"
  | tooDeep => "recursion limit exceeded"
  | repeatedKey key => "duplicate key `" ++ key ++ "`"
  | repeatedKeyIn [] key => "duplicate key `" ++ key ++ "` in document root"
  | repeatedKeyIn table key => "duplicate key `" ++ key ++ "` in table `" ++ dotted table ++ "`"
  | noTable path kind => "dotted key `" ++ dotted path ++ "` attempted to extend non-table type (" ++ kind ++ ")"
  | noDate => "failed to parse datetime"
  | noDateText found => "invalid type: " ++ found ++ ", expected string containing a datetime"

end Cause

/-- Why a text is no document. -/
structure Fault where
  /-- What could not be read. -/
  label : Option String := none
  /-- What might have stood there instead. -/
  expected : List String := []
  /-- What is wrong otherwise. -/
  cause : Option Cause := none
  deriving DecidableEq, Repr

namespace Fault

/-- The fault with a cause and nothing else. -/
def of (cause : Cause) : Fault := { cause := some cause }

/-- The fault with a label, unless it has one. -/
def labelled (label : String) (f : Fault) : Fault := { f with label := f.label.or (some label) }

/-- The fault with more that might have stood there. -/
def wanting (expected : List String) (f : Fault) : Fault := { f with expected := f.expected ++ expected }

/-- The lines of the wording of a fault. -/
def lines (f : Fault) : List String :=
  (f.label.map fun label => "invalid " ++ label).toList ++
    (if f.expected.isEmpty then [] else ["expected " ++ Text.joined ", " f.expected]) ++
    (f.cause.map Cause.words).toList

/-- The wording of a fault. -/
def message (f : Fault) : String := Text.joined "\n" f.lines

end Fault

end LintPlan.Toml
