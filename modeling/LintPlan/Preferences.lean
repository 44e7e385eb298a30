import LintPlan.Configuration
import LintPlan.Text.Quoted
/-!
# Preferences

What a user asks of a plan: a severity from which findings count, a performance profile, linters to
keep or to leave out, and standards of an organization. `Preferences.fault?` says which preferences no
plan can be made from.
-/

namespace LintPlan

/-- How speed and depth are traded. -/
inductive PerformanceProfile where
  | fast | balanced | thorough
  deriving DecidableEq, Repr, Inhabited

namespace PerformanceProfile

/-- Every profile. -/
def all : List PerformanceProfile := [fast, balanced, thorough]

/-- The name of a profile in every document. -/
def name : PerformanceProfile → String
  | fast => "fast"
  | balanced => "balanced"
  | thorough => "thorough"

/-- The profile with a name. -/
def ofName? (s : String) : Option PerformanceProfile := all.find? fun x => x.name == s

theorem ofName?_name (x : PerformanceProfile) : ofName? x.name = some x := by cases x <;> rfl

end PerformanceProfile

/-- Wishes about reports. -/
structure ReportingPreferences where
  /-- A format that is wanted besides the standard one. -/
  preferredFormat : ReportFormat
  outputDir : Option String
  /-- Do reports list the linters that found nothing? -/
  showPassed : Bool
  deriving DecidableEq, Repr

/-- What an organization requires. -/
structure OrganizationStandards where
  /-- Linters that have to be on. -/
  requiredLinters : List String
  /-- Rules by the name of the tool, sorted by name. -/
  customRules : List (String × List String)
  deriving DecidableEq, Repr

/-- What earlier runs showed. -/
structure HistorySignals where
  /-- How much technical debt there is, from 0 to 1. -/
  technicalDebt : Binary64
  /-- The number of people in the team. -/
  teamSize : Option Nat
  deriving DecidableEq, Repr

/-- What a user asks of a plan. -/
structure Preferences where
  /-- The least severity of linters that are wanted. -/
  severityThreshold : Severity
  /-- How speed and depth are traded. -/
  performanceProfile : PerformanceProfile
  /-- If there are any, only these linters are wanted. -/
  preferredLinters : List String
  /-- Linters that are not wanted. -/
  excludedLinters : List String
  /-- Is stricter security scanning wanted? -/
  enhancedScanning : Bool
  reporting : ReportingPreferences
  /-- What an organization requires. -/
  standards : Option OrganizationStandards
  /-- What earlier runs showed. -/
  history : Option HistorySignals
  deriving DecidableEq, Repr

namespace Preferences

/-- The preferences of a user who asks for nothing. -/
def standard : Preferences where
  severityThreshold := .info
  performanceProfile := .balanced
  preferredLinters := []
  excludedLinters := []
  enhancedScanning := false
  reporting := ⟨.text, none, false⟩
  standards := none
  history := none

/-- The linters that an organization requires. -/
def requiredLinters (p : Preferences) : List String :=
  match p.standards with
  | some s => s.requiredLinters
  | none => []

/-- The rules that an organization sets. -/
def customRules (p : Preferences) : List (String × List String) :=
  match p.standards with
  | some s => s.customRules
  | none => []

/-! ## Preferences that cannot be used -/

/-- Why preferences cannot be used. -/
inductive Fault where
  /-- The technical debt lies outside 0 to 1. -/
  | debtOutOfRange (debt : Binary64)
  /-- A name that could not stand in the text of a plan. -/
  | badLinterName (name : String)
  /-- A directory that could not stand in the text of a plan. -/
  | badOutputDir (dir : String)
  deriving DecidableEq, Repr

/-- The wording of a fault. -/
def Fault.message : Fault → String
  | .debtOutOfRange debt => "history.technical_debt must be within [0, 1], got " ++ debt.display
  | .badLinterName name => "invalid linter name " ++ Text.quoted name
  | .badOutputDir dir => "invalid reporting.output_dir " ++ Text.quoted dir

/-- A name that may stand in a list with commas on a line of a plan: not empty, without blanks, controls, commas
and equals signs. -/
def isPlainName (name : String) : Bool :=
  name != "" &&
    !name.toList.any fun c => Text.isBlank c || Text.isControl c || c == ',' || c == '='

/-- A directory that may stand on a line of a plan. -/
def isPlainDir (dir : String) : Bool :=
  dir != "" && Text.trimmed dir == dir && !dir.toList.any fun c => c == '\n' || c == '\r'

/-- The names that preferences speak of, in the order in which they are looked at. -/
def mentionedNames (p : Preferences) : List String :=
  p.preferredLinters ++ p.excludedLinters ++ p.requiredLinters

/-- Is the amount of technical debt within 0 to 1? -/
def debtInRange (debt : Binary64) : Bool := (Binary64.zero false).le debt && debt.le (Binary64.ofNat 1)

/-- The first fault: debt is looked at first, then the names, then the directory. -/
def fault? (p : Preferences) : Option Fault :=
  let debt := p.history.bind fun h =>
    if debtInRange h.technicalDebt then none else some (.debtOutOfRange h.technicalDebt)
  let name := (p.mentionedNames.find? fun n => !isPlainName n).map .badLinterName
  let dir := p.reporting.outputDir.bind fun d => if isPlainDir d then none else some (.badOutputDir d)
  (debt.orElse fun _ => name).orElse fun _ => dir

end Preferences

end LintPlan
