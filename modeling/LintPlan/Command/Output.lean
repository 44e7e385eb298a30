import LintPlan.Json.Printer
import LintPlan.Toon
/-!
# Output of commands

Every command can write its result as JSON, as TOON, or as a text for people.
-/

namespace LintPlan

/-- How a command writes its result. -/
inductive OutputFormat where
  | json | toon | text
  deriving DecidableEq, Repr, Inhabited

namespace OutputFormat

/-- Every format. -/
def all : List OutputFormat := [json, toon, text]

/-- The name of a format. -/
def name : OutputFormat → String
  | json => "json"
  | toon => "toon"
  | text => "text"

/-- The format with a name. -/
def ofName? (s : String) : Option OutputFormat := all.find? fun x => x.name == s

/-- The result of a command in a format: its document, or the text for people. -/
def render (f : OutputFormat) (document : Json) (forPeople : String) : String :=
  match f with
  | .json => document.pretty ++ "\n"
  | .toon => Toon.encode document ++ "\n"
  | .text => forPeople

theorem ofName?_name (x : OutputFormat) : ofName? x.name = some x := by cases x <;> rfl

end OutputFormat

end LintPlan
