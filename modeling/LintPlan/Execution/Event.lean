import LintPlan.Json.Basic
/-!
# Events of executions

The states of an execution, and the events that tell subscribers about it. An event has no time of its
own; its document may be given one.
-/

namespace LintPlan

/-- How far an execution has come. -/
inductive ExecutionState where
  | idle | preparing | running | completed | failed | timedOut | cancelled
  deriving DecidableEq, Repr, Inhabited

namespace ExecutionState

/-- Every state. -/
def all : List ExecutionState := [idle, preparing, running, completed, failed, timedOut, cancelled]

/-- The name of a state in every document. -/
def name : ExecutionState → String
  | idle => "idle"
  | preparing => "preparing"
  | running => "running"
  | completed => "completed"
  | failed => "failed"
  | timedOut => "timed_out"
  | cancelled => "cancelled"

/-- The state with a name. -/
def ofName? (s : String) : Option ExecutionState := all.find? fun x => x.name == s

/-- Is the execution over? -/
def isTerminal (s : ExecutionState) : Bool :=
  s == completed || s == failed || s == timedOut || s == cancelled

theorem ofName?_name (x : ExecutionState) : ofName? x.name = some x := by cases x <;> rfl

end ExecutionState

/-- Which pipe of a container a line comes from. -/
inductive OutputStream where
  | stdout | stderr
  deriving DecidableEq, Repr, Inhabited

/-- The name of a pipe in every document. -/
def OutputStream.name : OutputStream → String
  | stdout => "stdout"
  | stderr => "stderr"

/-- Something that happened in an execution. -/
inductive ExecutionEvent where
  /-- The execution came to a state. -/
  | stateChanged (execution : String) (state : ExecutionState)
  /-- The output shows that a linter has started. -/
  | toolStarted (execution : String) (linter : String)
  /-- A line of output. -/
  | output (execution : String) (stream : OutputStream) (line : String)
  deriving DecidableEq, Repr

namespace ExecutionEvent

/-- The identifier of the execution that an event is about. -/
def execution : ExecutionEvent → String
  | stateChanged id _ => id
  | toolStarted id _ => id
  | output id _ _ => id

/-- The document of an event. Lines of output have no time. -/
def toJson (time : Option String) : ExecutionEvent → Json
  | stateChanged id state =>
    .obj ([("type", .str "state_changed"), ("execution_id", .str id), ("state", .str state.name)] ++
      stamp)
  | toolStarted id linter =>
    .obj ([("type", .str "tool_started"), ("execution_id", .str id), ("linter", .str linter)] ++ stamp)
  | output id stream line =>
    .obj [("type", .str "output"), ("execution_id", .str id), ("stream", .str stream.name),
          ("line", .str line)]
where
  /-- The entry of the time. -/
  stamp : List (String × Json) := (time.map fun t => ("timestamp", Json.str t)).toList

end ExecutionEvent

end LintPlan
