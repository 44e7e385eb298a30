import LintPlan.Configuration
import LintPlan.Linter.Catalog
import LintPlan.Document.Configuration
/-!
# Validation of configurations

Findings about a configuration: errors that keep it from being run, warnings, and suggestions. A
configuration is valid if there are no errors.
-/

namespace LintPlan

/-- A finding about a configuration. -/
inductive ConfigIssue where
  /-- Two linters that are on must not run together. -/
  | linterConflict (first second : String)
  /-- The memory limit is below the least usable one. -/
  | memoryTooLow (limit : String) (megabytes : Nat)
  /-- The memory limit is no size. -/
  | memoryUnreadable (limit : String)
  /-- There is no format for reports. -/
  | noReportFormats
  /-- The time hardly suffices for a run. -/
  | littleTime (seconds : Nat)
  deriving DecidableEq, Repr

/-- A finding as it is reported: its code, its wording and the linters that it is about. -/
structure ReportedIssue where
  /-- The code of the kind of finding. -/
  code : String
  message : String
  linters : List String
  deriving DecidableEq, Repr

/-- The least number of seconds in which a run is likely to finish. -/
def leastExecutionTime : Nat := 60

namespace ConfigIssue

/-- The code of the kind of finding. -/
def code : ConfigIssue → String
  | linterConflict .. => "LINTER_CONFLICT"
  | memoryTooLow .. => "INSUFFICIENT_MEMORY"
  | memoryUnreadable .. => "INSUFFICIENT_MEMORY"
  | noReportFormats => "NO_OUTPUT_FORMATS"
  | littleTime .. => "LOW_EXECUTION_TIME"

/-- The wording of a finding. -/
def message : ConfigIssue → String
  | linterConflict a b => a ++ " conflicts with " ++ b
  | memoryTooLow limit megabytes =>
    "Memory limit " ++ limit ++ " (" ++ toString megabytes ++ "MB) is below the " ++
      toString MemorySize.least ++ "MB minimum"
  | memoryUnreadable limit => "Memory limit '" ++ limit ++ "' is not a recognizable size"
  | noReportFormats => "At least one report format is required"
  | littleTime seconds =>
    "Execution time " ++ toString seconds ++ "s may be too short to finish (minimum " ++
      toString leastExecutionTime ++ "s)"

/-- The linters that a finding is about. -/
def linters : ConfigIssue → List String
  | linterConflict a b => [a, b]
  | _ => []

/-- The finding as it is reported. -/
def reported (i : ConfigIssue) : ReportedIssue := ⟨i.code, i.message, i.linters⟩

end ConfigIssue

/-- What validation found. -/
structure ValidationReport where
  /-- Are there no errors? -/
  valid : Bool
  /-- Findings that keep the configuration from being run. -/
  errors : List ReportedIssue
  /-- Findings that do not. -/
  warnings : List ReportedIssue
  /-- Advice. -/
  suggestions : List String
  deriving DecidableEq, Repr

/-! ## The checks -/

/-- The pairs of names that conflict, the first name before the second. -/
def clashes : List String → List (String × String)
  | [] => []
  | a :: rest => ((rest.filter (Catalog.conflicts a)).map fun b => (a, b)) ++ clashes rest

namespace Configuration

/-- The pairs of linters that are on and conflict. -/
def clashingPairs (c : Configuration) : List (String × String) := clashes c.linters.enabledNames

/-- What is wrong with the memory limit. -/
def memoryIssue? (c : Configuration) : Option ConfigIssue :=
  let limit := c.performance.limits.maxMemory
  match MemorySize.parse? limit with
  | none => some (.memoryUnreadable limit)
  | some megabytes => if megabytes < MemorySize.least then some (.memoryTooLow limit megabytes) else none

/-- What is wrong with the formats of reports. -/
def formatsIssue? (c : Configuration) : Option ConfigIssue :=
  if c.reporting.formats.isEmpty then some .noReportFormats else none

/-- What is wrong with the time. -/
def timeIssue? (c : Configuration) : Option ConfigIssue :=
  let seconds := c.performance.maxExecutionTime
  if seconds < leastExecutionTime then some (.littleTime seconds) else none

/-- The findings that keep the configuration from being run. -/
def errors (c : Configuration) : List ConfigIssue :=
  (c.clashingPairs.map fun p => .linterConflict p.1 p.2) ++ c.memoryIssue?.toList ++
    c.formatsIssue?.toList

/-- With more linters than this, looking only at changed files pays. -/
def incrementalFrom : Nat := 15

/-- Advice about a configuration. -/
def suggestions (c : Configuration) : List String :=
  let enabled := c.linters.enabled.length
  (if enabled = 0 then ["No linters are enabled; check preferences and exclusions"] else []) ++
  (if incrementalFrom < enabled ∧ ¬c.performance.incremental then
    ["Enable incremental scanning for " ++ toString enabled ++ " linters to shorten runs"] else []) ++
  (if max enabled 1 < c.performance.parallelism then
    ["Parallelism " ++ toString c.performance.parallelism ++ " exceeds the " ++ toString enabled ++
      " enabled linters"] else []) ++
  (if c.security.enabled then [] else ["Security scanning is disabled"]) ++
  (if c.reporting.formats.any ReportFormat.isMachineReadable then []
   else ["Add a machine-readable report format (json or sarif)"])

/-- Runs every check. -/
def validate (c : Configuration) : ValidationReport where
  valid := c.errors.isEmpty
  errors := c.errors.map ConfigIssue.reported
  warnings := c.timeIssue?.toList.map ConfigIssue.reported
  suggestions := c.suggestions

/-- Are there no errors? -/
def isValid (c : Configuration) : Bool := c.errors.isEmpty

end Configuration

/-! ## The document of a report -/

open Json

namespace ReportedIssue

/-- The document of a finding; linters are left out when there are none. -/
def toJson (i : ReportedIssue) : Json :=
  .obj ([("code", .str i.code), ("message", .str i.message)] ++ entryIfAny "linters" texts i.linters)

/-- Reads the document of a finding. -/
def ofJson? (j : Json) : Option ReportedIssue := do
  let r ← toRecord? strict false [["code"], ["message"], ["linters"]] j
  let code ← r.required "code" toText?
  let message ← r.required "message" toText?
  let linters ← r.withDefault "linters" [] (toList? toText?)
  some ⟨code, message, linters⟩

end ReportedIssue

namespace ValidationReport

/-- The document of a report. -/
def toJson (r : ValidationReport) : Json :=
  .obj [("valid", .bool r.valid), ("errors", .arr (r.errors.map ReportedIssue.toJson)),
        ("warnings", .arr (r.warnings.map ReportedIssue.toJson)),
        ("suggestions", texts r.suggestions)]

/-- Reads the document of a report. -/
def ofJson? (j : Json) : Option ValidationReport := do
  let r ← toRecord? strict false [["valid"], ["errors"], ["warnings"], ["suggestions"]] j
  let valid ← r.required "valid" toBool?
  let errors ← r.required "errors" (toList? ReportedIssue.ofJson?)
  let warnings ← r.required "warnings" (toList? ReportedIssue.ofJson?)
  let suggestions ← r.required "suggestions" (toList? toText?)
  some ⟨valid, errors, warnings, suggestions⟩

end ValidationReport

end LintPlan
