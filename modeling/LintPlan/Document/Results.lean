import LintPlan.Report.Results
import LintPlan.Document.Profile
/-!
# Results as documents

The JSON form of results of linters, summaries and completed runs, and the way back. Fields without a
value and empty lists are left out.
-/

namespace LintPlan

open Json

namespace Issue

/-- The document of an issue. -/
def toJson (i : Issue) : Json :=
  .obj ([("file", .str i.file)] ++ entryIfSome "line" nat i.line ++
    entryIfSome "column" nat i.column ++ [("severity", .str i.severity.name)] ++
    entryIfSome "rule" .str i.rule ++ [("message", .str i.message), ("fixable", .bool i.fixable)])

/-- The fields of an issue in their order. -/
def fields : List FieldNames :=
  [["file"], ["line"], ["column"], ["severity"], ["rule"], ["message"], ["fixable"]]

/-- Reads the document of an issue. -/
def ofJson? (j : Json) : Option Issue := do
  let r ← toRecord? strict false fields j
  let file ← r.required "file" toText?
  let line ← r.withDefault "line" none (toOption? toWord32?)
  let column ← r.withDefault "column" none (toOption? toWord32?)
  let severity ← r.required "severity" (toChoice? strict IssueSeverity.ofName?)
  let rule ← r.withDefault "rule" none (toOption? toText?)
  let message ← r.required "message" toText?
  let fixable ← r.withDefault "fixable" false toBool?
  some ⟨file, line, column, severity, rule, message, fixable⟩

end Issue

namespace LinterResult

/-- The document of a linter's result. -/
def toJson (r : LinterResult) : Json :=
  .obj ([("name", .str r.name), ("status", .str r.outcome.name), ("files_linted", nat r.files),
     ("errors", nat r.errors), ("warnings", nat r.warnings), ("fixable", nat r.fixable)] ++
    entryIfSome "duration_ms" nat r.duration ++
    entryIfAny "issues" (fun is => .arr (is.map Issue.toJson)) r.issues)

/-- The fields of a linter's result in their order. -/
def fields : List FieldNames :=
  [["name"], ["status"], ["files_linted"], ["errors"], ["warnings"], ["fixable"], ["duration_ms"],
   ["issues"]]

/-- Reads the document of a linter's result. -/
def ofJson? (j : Json) : Option LinterResult := do
  let r ← toRecord? strict false fields j
  let name ← r.required "name" toText?
  let outcome ← r.required "status" (toChoice? strict Outcome.ofName?)
  let files ← r.required "files_linted" toWord64?
  let errors ← r.required "errors" toWord64?
  let warnings ← r.required "warnings" toWord64?
  let fixable ← r.required "fixable" toWord64?
  let duration ← r.withDefault "duration_ms" none (toOption? toWord64?)
  let issues ← r.withDefault "issues" [] (toList? Issue.ofJson?)
  some ⟨name, outcome, files, errors, warnings, fixable, duration, issues⟩

end LinterResult

namespace Summary

/-- The document of counts by severity. -/
def severitiesToJson (counts : List (IssueSeverity × Nat)) : Json :=
  .obj (counts.map fun e => (e.1.name, nat e.2))

/-- Reads counts by severity, sorted from the least. -/
def severitiesOfJson? : Json → Option (List (IssueSeverity × Nat))
  | .obj entries =>
    entries.foldlM (fun done e => do
      let severity ← IssueSeverity.ofName? e.1
      let count ← toWord64? e.2
      some (insertSorted (fun a b => decide (a.rank < b.rank)) severity count done)) []
  | _ => none

/-- The document of a summary. -/
def toJson (s : Summary) : Json :=
  .obj ([("total_linters", nat s.linters), ("passed_linters", nat s.passed),
     ("failed_linters", nat s.failed), ("files_analyzed", nat s.files),
     ("total_issues", nat s.issues), ("fixable_issues", nat s.fixable)] ++
    entryIfAny "by_severity" severitiesToJson s.bySeverity)

/-- The fields of a summary in their order. -/
def fields : List FieldNames :=
  [["total_linters"], ["passed_linters"], ["failed_linters"], ["files_analyzed"], ["total_issues"],
   ["fixable_issues"], ["by_severity"]]

/-- Reads the document of a summary. -/
def ofJson? (j : Json) : Option Summary := do
  let r ← toRecord? strict false fields j
  let linters ← r.required "total_linters" toWord64?
  let passed ← r.required "passed_linters" toWord64?
  let failed ← r.required "failed_linters" toWord64?
  let files ← r.required "files_analyzed" toWord64?
  let issues ← r.required "total_issues" toWord64?
  let fixable ← r.required "fixable_issues" toWord64?
  let bySeverity ← r.withDefault "by_severity" [] severitiesOfJson?
  some ⟨linters, passed, failed, files, issues, fixable, bySeverity⟩

end Summary

namespace RunMetrics

/-- The document of time and numbers. -/
def toJson (m : RunMetrics) : Json :=
  .obj [("duration_ms", nat m.duration), ("time_budget_secs", nat m.timeBudget),
        ("parallelism", nat m.parallelism), ("linters_executed", nat m.lintersExecuted),
        ("output_lines", nat m.outputLines)]

/-- The fields of time and numbers in their order. -/
def fields : List FieldNames :=
  [["duration_ms"], ["time_budget_secs"], ["parallelism"], ["linters_executed"], ["output_lines"]]

/-- Reads the document of time and numbers. -/
def ofJson? (j : Json) : Option RunMetrics := do
  let r ← toRecord? strict false fields j
  let duration ← r.required "duration_ms" toWord64?
  let timeBudget ← r.required "time_budget_secs" toWord64?
  let parallelism ← r.required "parallelism" toWord32?
  let lintersExecuted ← r.required "linters_executed" toWord64?
  let outputLines ← r.required "output_lines" toWord64?
  some ⟨duration, timeBudget, parallelism, lintersExecuted, outputLines⟩

end RunMetrics

namespace RunResults

/-- The document of a completed run. -/
def toJson (r : RunResults) : Json :=
  .obj ([("execution_id", .str r.executionId), ("timestamp", .str r.timestamp),
     ("duration_ms", nat r.duration)] ++ entryIfSome "profile" Profile.toJson r.profile ++
    [("configuration", r.configuration.toJson), ("linters", .arr (r.linters.map LinterResult.toJson)),
     ("summary", r.summary.toJson), ("performance", r.metrics.toJson)] ++
    entryIfAny "warnings" texts r.warnings)

/-- The fields of a completed run in their order. -/
def fields : List FieldNames :=
  [["execution_id"], ["timestamp"], ["duration_ms"], ["profile"], ["configuration"], ["linters"],
   ["summary"], ["performance"], ["warnings"]]

/-- Reads the document of a completed run. -/
def ofJson? (j : Json) : Option RunResults := do
  let r ← toRecord? strict false fields j
  let executionId ← r.required "execution_id" toText?
  let timestamp ← r.required "timestamp" toText?
  let duration ← r.required "duration_ms" toWord64?
  let profile ← r.withDefault "profile" none (toOption? Profile.ofJson?)
  let configuration ← r.required "configuration" Configuration.ofJson?
  let linters ← r.required "linters" (toList? LinterResult.ofJson?)
  let summary ← r.required "summary" Summary.ofJson?
  let metrics ← r.required "performance" RunMetrics.ofJson?
  let warnings ← r.withDefault "warnings" [] (toList? toText?)
  some ⟨executionId, timestamp, duration, profile, configuration, linters, summary, metrics, warnings⟩

end RunResults

end LintPlan
