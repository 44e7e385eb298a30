import LintPlan.Display.Banner
import LintPlan.Report.Results
/-!
# Results for people

The text that shows a completed run. Only the long form lists the issues.
-/

namespace LintPlan.RunResults

open Display

/-- The line of the counts. -/
def countsLine (r : RunResults) : String :=
  let s := r.summary
  "linters: " ++ toString s.linters ++ " (passed " ++ toString s.passed ++ ", failed " ++
    toString s.failed ++ ") | files: " ++ toString s.files ++ " | issues: " ++ toString s.issues ++
    " | fixable: " ++ toString s.fixable ++ " | duration: " ++ toString r.duration ++ "ms\n"

/-- Counts by severity on one line, the most severe first. -/
def severityLine (counts : List (IssueSeverity × Nat)) : String :=
  "severity: " ++
    Text.joined " | " (counts.reverse.map fun e => e.1.name ++ ": " ++ toString e.2) ++ "\n"

/-- The line of a linter's result. -/
def linterLine (r : LinterResult) : String :=
  let mark := match r.outcome with
    | .success => "✓"
    | .failed => "✗"
  let time := match r.duration with
    | some ms => ", " ++ toString ms ++ "ms"
    | none => ""
  "  " ++ mark ++ " " ++ r.name ++ " (" ++ toString r.files ++ " files, E:" ++ toString r.errors ++
    " W:" ++ toString r.warnings ++ time ++ ")\n"

/-- The place of an issue in its file; a column without a line says nothing. -/
def issuePlace (i : Issue) : String :=
  match i.line, i.column with
  | some line, some column => toString line ++ ":" ++ toString column
  | some line, none => toString line
  | none, _ => "-"

/-- The line of an issue. -/
def issueLine (linter : String) (i : Issue) : String :=
  let rule := match i.rule with
    | some rule => "/" ++ rule
    | none => ""
  "  " ++ issuePlace i ++ " " ++ i.severity.name ++ " [" ++ linter ++ rule ++ "] " ++ i.message ++ "\n"

/-- Issues with the names of their linters; a file that differs from the one before gets a heading. -/
def issueLines (file : String) : List (String × Issue) → String
  | [] => ""
  | (linter, i) :: rest =>
    showIf (i.file != file) ("\n[" ++ i.file ++ "]\n") ++ issueLine linter i ++ issueLines i.file rest

/-- Every issue with the name of its linter. -/
def issues (r : RunResults) : List (String × Issue) :=
  r.linters.flatMap fun l => l.issues.map fun i => (l.name, i)

/-- The text that shows a completed run. -/
def display (r : RunResults) (long : Bool) : String :=
  banner ("LINT RUN: " ++ if r.hasIssues then "ISSUES" else "CLEAN") ++
    "execution: " ++ r.executionId ++ "\n" ++ r.countsLine ++
    showIf (!r.summary.bySeverity.isEmpty) (severityLine r.summary.bySeverity) ++
    showIf (!r.linters.isEmpty) ("\nlinters:\n" ++ String.join (r.linters.map linterLine)) ++
    showIf (long && !r.issues.isEmpty) (heading "ISSUES" ++ issueLines "" r.issues) ++
    String.join (r.warnings.map fun w => "\n⚠ " ++ w ++ "\n")

end LintPlan.RunResults
