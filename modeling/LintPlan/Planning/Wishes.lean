import LintPlan.Planning.Selection
import LintPlan.Preferences
/-!
# Preferences applied to a set of linters

In this order: linters that are not preferred go off, then the excluded ones, then those below the
severity threshold; then each required linter goes on.
-/

namespace LintPlan.Planning

/-- The names of the linters that are on and have the property. -/
def namesWhere (s : LinterSet) (p : Linter → Bool) : List String := (s.enabled.filter p).map (·.name)

/-- Keeps the preferred linters only, if any are preferred. -/
def keepPreferred (preferred : List String) (s : LinterSet) : LinterSet :=
  if preferred.isEmpty then s else s.disableAll (namesWhere s fun l => !preferred.contains l.name)

/-- Switches off a linter that is on. -/
def exclude (s : LinterSet) (name : String) : LinterSet :=
  if s.isEnabled name then s.disable name else s

/-- Switches off the linters below the threshold. -/
def dropBelow (threshold : Severity) (s : LinterSet) : LinterSet :=
  s.disableAll (namesWhere s fun l => l.severity < threshold)

/-- A linter that is required and not in the catalog. -/
def unknownLinter (name : String) : Linter where
  name := name
  language := none
  category := .quality
  severity := .warning
  enabled := true
  rules := []
  scope := ["**/*"]
  outOfScope := []

/-- A required linter, bound to the first language of its template. -/
def requiredLinter (name : String) : Linter :=
  match Catalog.find? name with
  | some t => t.bind t.languages.head?
  | none => unknownLinter name

/-- Switches on a required linter; linters that conflict with it go off unless they are required too. -/
def require (required : List String) (s : LinterSet) (name : String) : LinterSet :=
  if s.isEnabled name then s
  else
    let displaced := namesWhere s fun l => Catalog.conflicts l.name name && !required.contains l.name
    let s := s.disableAll displaced
    { s with disabled := s.disabled.filter (· != name) }.add (requiredLinter name)

/-- Adds rules to those of a tool, in a map that is sorted by name. -/
def addRules (rules : List (String × List String)) (entry : String × List String) :
    List (String × List String) :=
  match rules with
  | [] => [entry]
  | (name, rs) :: rest =>
    if entry.1 = name then (name, rs ++ entry.2) :: rest
    else if entry.1 < name then entry :: (name, rs) :: rest
    else (name, rs) :: addRules rest entry

/-- Applies preferences to a set of linters. -/
def applyPreferences (prefs : Preferences) (s : LinterSet) : LinterSet :=
  let s := keepPreferred prefs.preferredLinters s
  let s := prefs.excludedLinters.foldl exclude s
  let s := dropBelow prefs.severityThreshold s
  let s := prefs.requiredLinters.foldl (require prefs.requiredLinters) s
  { s with customRules := prefs.customRules.foldl addRules s.customRules }

end LintPlan.Planning
