import LintPlan.Execution.Event
import LintPlan.Failure
import LintPlan.Report.ToolMatcher
/-!
# Watching a container

What is kept of a container while it runs: its lines, the linter that they are about, whether its pipes are still
open and how it exited. The watch is over when the exit has been noticed and the pipes are closed, in either order,
so that no line is left behind.
-/

namespace LintPlan

/-- How a process exited: with a code, or without one when a signal ended it. -/
abbrev ExitCode := Option Int

/-- The output of a container that ended well. -/
structure Captured where
  /-- Its lines on standard output. -/
  stdout : List String
  /-- The number of all its lines. -/
  outputLines : Nat
  deriving DecidableEq, Repr

/-- What has been seen of a container. -/
structure Watch where
  /-- Finds the linters that lines are about. -/
  matcher : ToolMatcher
  /-- The linter that the output was about last. -/
  tool : Option String
  /-- Lines on standard output, the newest first. -/
  stdout : List String
  /-- Lines on standard error, the newest first. -/
  stderr : List String
  /-- Can there be more lines? -/
  pipesOpen : Bool
  /-- The exit that was noticed. -/
  exit : Option ExitCode

namespace Watch

/-- Lines of standard error that a failed execution shows. -/
def tailLines : Nat := 20

/-- Nothing has been seen. -/
def start (names : List String) : Watch where
  matcher := .ofNames names
  tool := none
  stdout := []
  stderr := []
  pipesOpen := true
  exit := none

/-- The linter that a line announces, unless the output is about it already. -/
def newTool? (w : Watch) (line : String) : Option String :=
  match w.matcher.detect line with
  | some tool => if w.tool = some tool then none else some tool
  | none => none

/-- What a line tells the subscribers of an execution: the linter that it announces, then the line itself. -/
def eventsOf (w : Watch) (id : String) (stream : OutputStream) (line : String) : List ExecutionEvent :=
  ((w.newTool? line).map (ExecutionEvent.toolStarted id)).toList ++ [.output id stream line]

/-- Adds a line. -/
def add (w : Watch) (stream : OutputStream) (line : String) : Watch :=
  let w := { w with tool := (w.newTool? line).orElse fun _ => w.tool }
  match stream with
  | .stdout => { w with stdout := line :: w.stdout }
  | .stderr => { w with stderr := line :: w.stderr }

/-- The text of lines, each with a line feed behind it. -/
def textOf (lines : List String) : List Char := lines.flatMap fun line => line.toList ++ ['\n']

/-- The end of standard error. -/
def stderrTail (w : Watch) : String :=
  let lines := Text.lines (textOf w.stderr.reverse)
  Text.joined "\n" ((lines.drop (lines.length - tailLines)).map String.ofList)

/-- What comes of a container that exited: its output if the code is zero. -/
def outcome (w : Watch) (code : ExitCode) : Except ExecutionFault Captured :=
  if code = some 0 then .ok ⟨w.stdout.reverse, w.stdout.length + w.stderr.length⟩
  else .error (.nonZeroExit code w.stderrTail)

/-- What came of the container, once its exit is noticed and its pipes are closed. -/
def outcome? (w : Watch) : Option (Except ExecutionFault Captured) :=
  match w.pipesOpen, w.exit with
  | false, some code => some (w.outcome code)
  | _, _ => none

end Watch

end LintPlan
