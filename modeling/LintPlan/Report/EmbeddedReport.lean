import LintPlan.Report.Results
import LintPlan.Json.Typed
import LintPlan.Number.Shortest
/-!
# Reports embedded in output

Some linting images print a report as one JSON object among other output. The object starts a line, and
that line names its key `linters`. The first such line decides: if no report can be read there, there is
none.
-/

namespace LintPlan

open Json

namespace Duration

/-- Milliseconds of a number of seconds, rounded to the nearest, a half upwards. -/
def milliseconds (seconds : Binary64) : Nat :=
  (seconds.mul (Binary64.ofNat 1000)).toNatUpTo Text.maxWord64

end Duration

namespace EmbeddedReport

/-! ## Finding it -/

/-- The text that a line with a report contains. -/
def mark : List Char := "\"linters\"".toList

/-- May a report start on this line? -/
def isStart (line : List Char) : Bool :=
  (Text.trimStart line).head? == some '\x7b' && Text.contains mark line

/-- The text from the first line on which a report may start, without the blanks in front of it. -/
def locateIn : List (List Char) → Option (List Char)
  | [] => none
  | line :: rest =>
    if isStart line then some (Text.join ['\n'] (Text.trimStart line :: rest)) else locateIn rest

/-- The text from the place where a report may start. -/
def locate (output : List Char) : Option (List Char) := locateIn (Text.splitOn '\n' output)

/-! ## Reading it -/

/-- The outcome that a status means; without a status, errors mean failure. -/
def outcome (status : Option String) (errors : Nat) : Outcome :=
  match status with
  | some s => if ["success", "ok", "passed"].contains (Text.lowerAscii s) then .success else .failed
  | none => if 0 < errors then .failed else .success

/-- An issue of which a report says nothing. -/
def blankIssue : Issue := ⟨"", none, none, .ofWord "", none, "", false⟩

/-- The fields of an issue in their order. -/
def issueFields : List (Reading.Field Issue) :=
  [.needed "file" ["path"] Reading.text fun i v => { i with file := v },
   .optional "line" [] Reading.word32.option fun i v => { i with line := v },
   .optional "column" ["col"] Reading.word32.option fun i v => { i with column := v },
   .optional "severity" ["level"] Reading.text.option fun i v => { i with severity := .ofWord (v.getD "") },
   .optional "rule" ["rule_id", "code"] Reading.text.option fun i v => { i with rule := v },
   .optional "message" [] Reading.text fun i v => { i with message := v },
   .optional "fixable" [] Reading.bool fun i v => { i with fixable := v }]

/-- Reads an issue. -/
def issue (fuel : Nat) : Reading Issue := Reading.record fuel "struct JsonIssue" issueFields blankIssue

/-- A linter's result as a report writes it. -/
structure ReportedResult where
  name : String := ""
  /-- A word for how it ended. -/
  status : Option String := none
  /-- Files that it looked at. -/
  files : Nat := 0
  /-- Errors that it reports. -/
  errors : Nat := 0
  /-- Warnings that it reports. -/
  warnings : Nat := 0
  /-- Findings that it can fix. -/
  fixable : Nat := 0
  /-- Seconds that it took. -/
  elapsed : Option Binary64 := none
  /-- What it found. -/
  issues : List Issue := []
  deriving DecidableEq, Repr

/-- The result that a report writes. -/
def ReportedResult.toResult (r : ReportedResult) : LinterResult :=
  ⟨r.name, outcome r.status r.errors, r.files, r.errors, r.warnings, r.fixable,
    r.elapsed.map Duration.milliseconds, r.issues⟩

/-- The fields of a linter's result in their order. -/
def resultFields (fuel : Nat) : List (Reading.Field ReportedResult) :=
  [.needed "name" ["linter_name", "linter"] Reading.text fun r v => { r with name := v },
   .optional "status" [] Reading.text.option fun r v => { r with status := v },
   .optional "files_linted" ["files_number", "files"] Reading.count fun r v => { r with files := v },
   .optional "errors" ["total_number_errors", "errors_number"] Reading.count fun r v => { r with errors := v },
   .optional "warnings" ["total_number_warnings", "warnings_number"] Reading.count
     fun r v => { r with warnings := v },
   .optional "fixable" ["fixed_number"] Reading.count fun r v => { r with fixable := v },
   .optional "elapsed" ["elapsed_time_s"] Reading.float.option fun r v => { r with elapsed := v },
   .optional "issues" [] (Reading.list fuel (issue fuel)) fun r v => { r with issues := v }]

/-- Reads a linter's result. -/
def result (fuel : Nat) : Reading ReportedResult := Reading.record fuel "struct JsonLinter" (resultFields fuel) {}

/-- Reads a report. -/
def report (fuel : Nat) : Reading (List ReportedResult) :=
  Reading.record fuel "struct JsonReport" [.needed "linters" [] (Reading.list fuel (result fuel)) fun _ v => v] []

/-- The report at the start of a text; what follows it does not matter. -/
def read (cs : List Char) : Except Fault (List LinterResult) :=
  (report (2 * cs.length + 2) (.ofText cs)).map fun r => r.1.map ReportedResult.toResult

end EmbeddedReport

end LintPlan
