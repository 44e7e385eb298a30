import LintPlan.Command.Planning
import LintPlan.Display.Results
import LintPlan.Document.Results
import LintPlan.Execution.Completion
import LintPlan.Execution.Course
/-!
# Running at the command line

What the command that runs a plan does: it makes the plan as the other commands do, has it executed, and writes the
record of the execution. The status tells whether issues were found.
-/

namespace LintPlan

/-- How a run is asked for. -/
structure RunOptions where
  path : String
  /-- Seconds that the run may take, if the plan is not to say it. -/
  timeout : Option Nat
  /-- The speed, if the preferences are not to say it. -/
  speed : Option PerformanceProfile
  /-- The file with preferences. -/
  preferences : Option String
  /-- Are events wanted? -/
  events : Bool
  maxDepth : Nat
  engine : String
  image : String
  deriving DecidableEq, Repr

/-- What a run leaves behind. -/
structure RunReport where
  /-- The record, or why there is none. There is neither if a counter or the clock overflowed. -/
  results : Option (Except Failure RunResults)
  /-- The events that somebody wanted to see. -/
  events : List ExecutionEvent
  /-- What was done to containers. -/
  acts : List ContainerAct
  /-- The files afterwards. -/
  files : FileTree

namespace RunOptions

/-- The plan with the time that the run may take: at least a second, if it is not the plan that says it. -/
def limited (o : RunOptions) (c : Configuration) : Configuration :=
  match o.timeout with
  | some seconds => { c with performance := { c.performance with maxExecutionTime := max seconds 1 } }
  | none => c

/-- The runner for a run. Somebody subscribes to its events if they are wanted. -/
def runner (o : RunOptions) (s : Surroundings) : Runner :=
  let r := Runner.idle ⟨o.engine, o.image, true, s.here⟩ s.files
  if o.events then { r with bus := r.bus.subscribe } else r

/-- Executes a plan. -/
def execute (o : RunOptions) (s : Surroundings) (b : EngineBehaviour) (stamp : Stamp) (profile : Profile)
    (c : Configuration) : RunReport :=
  let finished := (Session.start (o.runner s)).execute stamp.id ⟨c, o.path⟩ b
  let results := match finished.result? 0 with
    | some (.ok captured) => (captured.results? stamp c (some profile)).map .ok
    | some (.error fault) => some (.error (.execution fault))
    | none => none
  ⟨results, finished.runner.bus.pending 0, finished.runner.acts, finished.runner.files⟩

/-- Makes a plan and executes it. -/
def run (o : RunOptions) (s : Surroundings) (b : EngineBehaviour) (stamp : Stamp) : RunReport :=
  match Draft.make s o.maxDepth o.path o.preferences o.speed with
  | .error failure => ⟨some (.error failure), [], [], s.files⟩
  | .ok d => o.execute s b stamp d.profile (o.limited d.configuration)

end RunOptions

/-- What the run command writes. -/
def RunResults.output (r : RunResults) (long : Bool) (format : OutputFormat) : String :=
  format.render r.toJson (r.display long)

end LintPlan
