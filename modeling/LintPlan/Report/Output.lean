import LintPlan.Report.LogLine
/-!
# Output of a linting container

An embedded report is read if there is one; else the lines of the log are. Nothing here is an error:
what cannot be read becomes a warning.
-/

namespace LintPlan

/-- Why output could not be read in full. -/
inductive OutputWarning where
  /-- A report starts, and it cannot be read. -/
  | brokenReport (fault : Json.Fault)
  /-- There is output, and none of it is a result. -/
  | nothingRecognized
  deriving DecidableEq, Repr

/-- The wording of a warning. -/
def OutputWarning.message : OutputWarning → String
  | .brokenReport fault => "Parse error: embedded JSON report: " ++ fault.message
  | .nothingRecognized => "Parse error: no linter results recognized in output"

/-- What could be read of the output. -/
structure OutputReading where
  results : List LinterResult
  /-- What could not be read. -/
  warnings : List OutputWarning
  deriving DecidableEq

namespace OutputReading

/-- Reads the lines of a log, after the given warnings. -/
def ofLog (output : List Char) (warnings : List OutputWarning) : OutputReading :=
  let results := readLog output
  if results.isEmpty && !(Text.trim output).isEmpty then
    ⟨results, warnings ++ [.nothingRecognized]⟩
  else ⟨results, warnings⟩

/-- Reads the output of a container. -/
def read (output : List Char) : OutputReading :=
  match EmbeddedReport.locate output with
  | none => ofLog output []
  | some text =>
    match EmbeddedReport.read text with
    | .ok results => ⟨results, []⟩
    | .error fault => ofLog output [.brokenReport fault]

end OutputReading

end LintPlan
