import LintPlan.Configuration
import LintPlan.Number.Total
import LintPlan.Repository.Profile
/-!
# Results of a run

What each linter found, the summary of it all, and the record of a completed run.
-/

namespace LintPlan

/-! ## Issues -/

/-- How severe an issue is, on one scale for all tools. -/
inductive IssueSeverity where
  | low | medium | high | critical
  deriving DecidableEq, Repr, Inhabited

namespace IssueSeverity

/-- Every severity, from the least. -/
def all : List IssueSeverity := [low, medium, high, critical]

/-- The name of a severity in every document. -/
def name : IssueSeverity → String
  | low => "low"
  | medium => "medium"
  | high => "high"
  | critical => "critical"

/-- The severity with a name. -/
def ofName? (s : String) : Option IssueSeverity := all.find? fun x => x.name == s

/-- The place on the scale. -/
def rank : IssueSeverity → Nat
  | low => 0
  | medium => 1
  | high => 2
  | critical => 3

/-- The words that tools use for a severity; all others mean a low one. -/
def words : List (String × IssueSeverity) :=
  [("ERROR", critical), ("CRITICAL", critical), ("BLOCKER", critical), ("FATAL", critical),
   ("MAJOR", high), ("WARNING", high), ("WARN", high), ("INFO", medium), ("MINOR", medium)]

/-- The severity that a tool's word means, in any case and with blanks around it. -/
def ofWord (word : String) : IssueSeverity :=
  (words.lookup (Text.upperAscii (Text.trimmed word))).getD low

theorem ofName?_name (x : IssueSeverity) : ofName? x.name = some x := by cases x <;> rfl

end IssueSeverity

/-- Something that a linter found. -/
structure Issue where
  file : String
  /-- The line in the file. -/
  line : Option Nat
  /-- The column in the line. -/
  column : Option Nat
  severity : IssueSeverity
  rule : Option String
  /-- What the linter says about it. -/
  message : String
  /-- Can the linter fix it? -/
  fixable : Bool
  deriving DecidableEq, Repr

/-! ## Counters -/

/-- The sum of two counters, if a counter of 64 bits can hold it. -/
def counterSum? (a b : Nat) : Option Nat := if a + b ≤ Text.maxWord64 then some (a + b) else none

/-! ## Results of linters -/

/-- How a linter ended. -/
inductive Outcome where
  | success | failed
  deriving DecidableEq, Repr, Inhabited

namespace Outcome

/-- Both outcomes. -/
def all : List Outcome := [success, failed]

/-- The name of an outcome in every document. -/
def name : Outcome → String
  | success => "success"
  | failed => "failed"

/-- The outcome with a name. -/
def ofName? (s : String) : Option Outcome := all.find? fun x => x.name == s

theorem ofName?_name (x : Outcome) : ofName? x.name = some x := by cases x <;> rfl

end Outcome

/-- What a linter found. -/
structure LinterResult where
  name : String
  outcome : Outcome
  /-- Files that it looked at. -/
  files : Nat
  /-- Errors that it reports. -/
  errors : Nat
  /-- Warnings that it reports. -/
  warnings : Nat
  /-- Findings that it can fix. -/
  fixable : Nat
  /-- Milliseconds that it took. -/
  duration : Option Nat
  /-- Issues that were collected from its output. -/
  issues : List Issue
  deriving DecidableEq, Repr

namespace LinterResult

/-- A result without numbers and issues. -/
def blank (name : String) (outcome : Outcome) : LinterResult :=
  ⟨name, outcome, 0, 0, 0, 0, none, []⟩

/-- The number of findings: what the linter reports, or what was collected if that is more. -/
def issueCount (r : LinterResult) : Nat := max (r.errors + r.warnings) r.issues.length

/-- The number of findings, unless the errors and warnings that the linter reports are too many for a counter. -/
def issueCount? (r : LinterResult) : Option Nat :=
  (counterSum? r.errors r.warnings).map fun reported => max reported r.issues.length

/-- The number of findings that can be fixed: what the linter reports, or what was collected if that is
more. -/
def fixableCount (r : LinterResult) : Nat := max r.fixable (r.issues.countP (·.fixable))

end LinterResult

/-! ## Summaries -/

/-- Counts over all linters. -/
structure Summary where
  linters : Nat
  /-- Linters that ended well. -/
  passed : Nat
  /-- Linters that failed. -/
  failed : Nat
  /-- Files that were looked at, counted for each linter. -/
  files : Nat
  issues : Nat
  /-- Findings that can be fixed. -/
  fixable : Nat
  /-- Collected issues by severity, from the least; severities without issues are left out. -/
  bySeverity : List (IssueSeverity × Nat)
  deriving DecidableEq, Repr

namespace Summary

/-- The number of collected issues of a severity. -/
def severityCount (results : List LinterResult) (s : IssueSeverity) : Nat :=
  total (results.map fun r => r.issues.countP fun i => i.severity == s)

/-- The summary of results. -/
def ofResults (results : List LinterResult) : Summary where
  linters := results.length
  passed := results.countP fun r => r.outcome == .success
  failed := results.countP fun r => r.outcome == .failed
  files := total (results.map (·.files))
  issues := total (results.map LinterResult.issueCount)
  fixable := total (results.map LinterResult.fixableCount)
  bySeverity :=
    (IssueSeverity.all.map fun s => (s, severityCount results s)).filter fun e => 0 < e.2

/-- Adds the counters of a result to those of a summary, unless one of them overflows. -/
def add? (x : Summary) (r : LinterResult) : Option Summary := do
  let files ← counterSum? x.files r.files
  let count ← r.issueCount?
  let issues ← counterSum? x.issues count
  let fixable ← counterSum? x.fixable r.fixableCount
  some { x with files := files, issues := issues, fixable := fixable }

/-- The summary of results, unless a counter overflows on the way. Results and issues are counted one by one, which
cannot overflow as long as there is room for them; what is added up are the numbers that linters report. -/
def ofResults? (results : List LinterResult) : Option Summary :=
  results.foldlM add? { ofResults results with files := 0, issues := 0, fixable := 0 }

/-- The number that a summary gives for a severity. -/
def count (x : Summary) (s : IssueSeverity) : Nat := (x.bySeverity.lookup s).getD 0

end Summary

/-! ## Completed runs -/

/-- Time and numbers of a run. -/
structure RunMetrics where
  /-- Milliseconds that it took. -/
  duration : Nat
  /-- Seconds that it was allowed to take. -/
  timeBudget : Nat
  /-- Linters at a time. -/
  parallelism : Nat
  /-- Linters with a result. -/
  lintersExecuted : Nat
  /-- Lines of output. -/
  outputLines : Nat
  deriving DecidableEq, Repr

/-- The record of a completed run. -/
structure RunResults where
  executionId : String
  /-- When it was completed. -/
  timestamp : String
  /-- Milliseconds that it took. -/
  duration : Nat
  /-- The profile of the repository. -/
  profile : Option Profile
  /-- What was asked for. -/
  configuration : Configuration
  linters : List LinterResult
  summary : Summary
  /-- Time and numbers. -/
  metrics : RunMetrics
  /-- Problems that did not keep the run from being completed. -/
  warnings : List String
  deriving DecidableEq, Repr

/-- Did the run find anything? -/
def RunResults.hasIssues (r : RunResults) : Bool := 0 < r.summary.issues

end LintPlan
