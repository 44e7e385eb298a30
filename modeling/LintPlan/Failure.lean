import LintPlan.FileSystem.Fault
import LintPlan.Preferences
import LintPlan.Validation
/-!
# Failures

What may go wrong, by the stage in which it does, with the wording of each failure and the exit status of a
command that ends with it.
-/

namespace LintPlan

/-- Why a repository cannot be looked at. -/
inductive AnalysisFault where
  /-- There is nothing at the path. -/
  | notFound (path : String)
  /-- What is there is no directory. -/
  | notDirectory (path : String)
  /-- The system refuses. -/
  | unreadable (path : String) (fault : OsFault)
  deriving DecidableEq, Repr

/-- Why an execution did not complete. -/
inductive ExecutionFault where
  /-- The container engine does not answer. -/
  | unavailable (engine : String)
  /-- Another execution is in progress. -/
  | busy
  /-- The repository could not be prepared. -/
  | prepare (path : String) (fault : OsFault)
  /-- The container engine could not be started. -/
  | spawn (program : String) (fault : OsFault)
  /-- The container failed. There is no code if a signal ended it. -/
  | nonZeroExit (code : Option Int) (stderr : String)
  /-- The time was up. -/
  | timedOut (seconds : Nat)
  /-- Somebody cancelled the execution. -/
  | cancelled
  deriving DecidableEq, Repr

/-- Why a file with preferences cannot be used. -/
inductive PreferencesFault where
  /-- The system refuses to read it. -/
  | unreadable (fault : OsFault)
  /-- It is no document with preferences. -/
  | malformed (detail : String)
  /-- No plan could be made from its preferences. -/
  | unusable (fault : Preferences.Fault)
  deriving DecidableEq, Repr

/-- What may go wrong. -/
inductive Failure where
  /-- The repository cannot be looked at. -/
  | analysis (fault : AnalysisFault)
  /-- The configuration is invalid after repair. -/
  | invalidConfiguration (issues : List ReportedIssue)
  /-- The execution did not complete. -/
  | execution (fault : ExecutionFault)
  /-- A text could not be read. -/
  | parse (message : String)
  /-- The preferences cannot be used. -/
  | preferences (path : String) (fault : PreferencesFault)
  /-- A value could not be written. -/
  | serialization (message : String)
  /-- The system refuses an operation on files. -/
  | files (fault : OsFault)
  deriving DecidableEq, Repr

namespace AnalysisFault

/-- The wording of a fault. -/
def message : AnalysisFault → String
  | notFound path => "Path not found: " ++ path
  | notDirectory path => "Not a directory: " ++ path
  | unreadable path fault => "Cannot read " ++ path ++ ": " ++ fault.message

end AnalysisFault

namespace ExecutionFault

/-- An exit code, if there is one. -/
def codeText : Option Int → String
  | some code => "Some(" ++ toString code ++ ")"
  | none => "None"

/-- The wording of a fault. -/
def message : ExecutionFault → String
  | unavailable engine => "Container runtime '" ++ engine ++ "' is not available"
  | busy => "Engine busy: an execution is already in progress"
  | prepare path fault => "Failed to prepare execution in " ++ path ++ ": " ++ fault.message
  | spawn program fault => "Failed to start " ++ program ++ ": " ++ fault.message
  | nonZeroExit code stderr =>
    "Linting container exited with code " ++ codeText code ++ ": " ++ stderr
  | timedOut seconds => "Execution timed out after " ++ toString seconds ++ "s"
  | cancelled => "Execution cancelled"

/-- The exit status of a command that ends with the fault. -/
def exitStatus : ExecutionFault → Nat
  | timedOut _ => 3
  | cancelled => 3
  | unavailable _ => 4
  | _ => 5

end ExecutionFault

namespace PreferencesFault

/-- The wording of a fault. -/
def message : PreferencesFault → String
  | unreadable fault => fault.message
  | malformed detail => detail
  | unusable fault => fault.message

end PreferencesFault

namespace Failure

/-- The wording of a failure. -/
def message : Failure → String
  | analysis fault => fault.message
  | invalidConfiguration issues =>
    "Configuration invalid after auto-fix: " ++
      Text.joined "; " (issues.map fun i => i.code ++ " (" ++ i.message ++ ")")
  | execution fault => fault.message
  | parse message => "Parse error: " ++ message
  | preferences path fault => "Invalid preferences file " ++ path ++ ": " ++ fault.message
  | serialization message => "Serialization failed: " ++ message
  | files fault => "IO error: " ++ fault.message

/-- The exit status of a command that ends with the failure: 2 for a configuration that is invalid, 3 for an
execution that was stopped, 4 for an engine that does not answer, 5 for any other failed execution, else 1. -/
def exitStatus : Failure → Nat
  | invalidConfiguration _ => 2
  | execution fault => fault.exitStatus
  | _ => 1

end Failure

end LintPlan
