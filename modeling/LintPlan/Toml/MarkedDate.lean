import LintPlan.Json.Basic
import LintPlan.Number.Shortest
import LintPlan.Toml.Fault
import LintPlan.Toml.Moment
/-!
# Marked dates

A document of any shape may hold a date in a second form: as a table that starts with a certain key, under which the
date is written as a text. Such a table is the date, whatever else is in it.

Main definition: `resolveDates`, the value with these tables replaced.
-/

namespace LintPlan.Toml

/-- The key with which the table for a date starts. -/
def dateMark : String := "$__toml_private_datetime"

/-- The value that a table marks as a date, if it does so. -/
def markedDate? : List (String × Json) → Option Json
  | (key, j) :: _ => if key = dateMark then some j else none
  | [] => none

/-- A float as messages show it: never with an exponent, and a whole number with a zero behind a point. -/
def floatWords (x : Binary64) : String := x.display ++ if x.isFinite && x.isInteger then ".0" else ""

/-- What is found instead of a text, as messages name it. -/
def foundWords : Json → String
  | .bool b => "boolean `" ++ (if b then "true" else "false") ++ "`"
  | .int i => "integer `" ++ toString i ++ "`"
  | .float x => "floating point `" ++ floatWords x ++ "`"
  | .arr _ => "sequence"
  | _ => "map"

/-- Is the value a text that is a date, a time, or both? -/
def checkDate : Json → Except Cause Json
  | .str s => if isMoment s.toList then .ok .date else .error .noDate
  | j => .error (.noDateText (foundWords j))

mutual

/-- The value with the tables for dates replaced; one that does not hold a date is a fault. -/
def resolveDates : Json → Except Cause Json
  | .arr items => (resolveItems items).map .arr
  | .obj entries =>
    match markedDate? entries with
    | some j => checkDate j
    | none => (resolveEntries entries).map .obj
  | j => .ok j

/-- `resolveDates` on every item. -/
def resolveItems : List Json → Except Cause (List Json)
  | [] => .ok []
  | j :: js =>
    match resolveDates j with
    | .error cause => .error cause
    | .ok j => (resolveItems js).map (j :: ·)

/-- `resolveDates` on every value of a table. -/
def resolveEntries : List (String × Json) → Except Cause (List (String × Json))
  | [] => .ok []
  | (key, j) :: rest =>
    match resolveDates j with
    | .error cause => .error cause
    | .ok j => (resolveEntries rest).map ((key, j) :: ·)

end

/-- The value of a document, with its marked dates. -/
def resolved (document : Except Fault Json) : Except Fault Json :=
  document.bind fun j => (resolveDates j).mapError Fault.of

end LintPlan.Toml
