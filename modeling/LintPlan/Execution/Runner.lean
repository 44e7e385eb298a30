import LintPlan.Execution.Bus
import LintPlan.Execution.RunSpec
import LintPlan.Execution.Watch
import LintPlan.FileSystem.Writing
/-!
# Runners

What all calls of one runner share: the files, the subscribers, the state that anybody may ask for, the flag that lets
only one call in, and the slot through which that call can be cancelled. What is done to containers is kept in the
order in which it is done.
-/

namespace LintPlan

/-- How a runner is set up. -/
structure RunnerSetup where
  engine : String
  image : String
  /-- Is the plan written into the repository? -/
  writesPlan : Bool
  here : Location
  deriving DecidableEq, Repr

/-- What a call is to run. -/
structure RunRequest where
  configuration : Configuration
  repository : String
  deriving DecidableEq, Repr

namespace RunRequest

/-- Seconds that an execution may take. -/
def budget (q : RunRequest) : Nat := q.configuration.performance.maxExecutionTime

/-- Seconds in which the engine has to say that it is available. -/
def checkBudget (q : RunRequest) : Nat := min 15 q.budget

end RunRequest

/-- How somebody tried to stop a container without force. -/
inductive StopAttempt where
  /-- By the engine's own command for stopping, which may or may not have succeeded. -/
  | command (succeeded : Bool)
  /-- By the engine's own command for stopping, which could not be started. -/
  | commandNotStarted
  /-- By the engine's own command for stopping, which was not done in time. -/
  | commandLate
  /-- By a signal to the process, as the engine has no command for stopping. -/
  | signal
  deriving DecidableEq, Repr

/-- Something that is done to a container or to its process. -/
inductive ContainerAct where
  /-- The engine is asked how to run it. -/
  | described (spec : RunSpec)
  /-- Its process is started. -/
  | started (spec : RunSpec)
  /-- It is told to stop. -/
  | toldToStop (attempt : StopAttempt)
  /-- The grace period passes, and its process still runs. -/
  | outlastedGrace
  /-- Its process is killed. -/
  | killed
  /-- Somebody waited for its process, and it has exited. -/
  | waitedFor
  deriving DecidableEq, Repr

/-- Where requests to cancel go. -/
structure CancelSlot where
  /-- The call that can be cancelled here. -/
  owner : Nat
  /-- Has somebody asked for it? -/
  requested : Bool
  /-- Does the call still listen? -/
  heard : Bool
  deriving DecidableEq, Repr

/-- What the calls of a runner share. -/
structure Runner where
  setup : RunnerSetup
  files : FileTree
  bus : EventBus
  /-- What was done to containers. -/
  acts : List ContainerAct
  /-- The state of the execution that is in progress, or of the last one. -/
  state : ExecutionState
  /-- Is a call in progress? -/
  busy : Bool
  /-- Where requests to cancel go, if anywhere. -/
  slot : Option CancelSlot
  deriving DecidableEq, Repr

namespace Runner

/-- A runner that nobody has called. -/
def idle (setup : RunnerSetup) (files : FileTree) : Runner where
  setup := setup
  files := files
  bus := .empty
  acts := []
  state := .idle
  busy := false
  slot := none

/-- The directory for the plan in a repository. -/
def planDirectory : String := ".lintscope"

/-- The file with the plan in this directory. -/
def planFile : String := "lint.env"

/-- The path of the plan in a repository. -/
def planPath (repository : String) : String :=
  Path.append (Path.append repository planDirectory) planFile

/-- The name of the container for an execution. -/
def containerName (id : String) : String := "lintscope-" ++ id

/-- Tells the subscribers something. -/
def emit (r : Runner) (e : ExecutionEvent) : Runner := { r with bus := r.bus.emit e }

/-- Tells the subscribers several things in order. -/
def emitAll (r : Runner) (es : List ExecutionEvent) : Runner := { r with bus := r.bus.emitAll es }

/-- Notes what is done to a container. -/
def note (r : Runner) (act : ContainerAct) : Runner := { r with acts := r.acts ++ [act] }

/-- Brings an execution to a state. -/
def enter (r : Runner) (id : String) (state : ExecutionState) : Runner :=
  ({ r with state := state }).emit (.stateChanged id state)

/-- Has somebody asked to cancel a call? -/
def isCancelled (r : Runner) (call : Nat) : Bool :=
  match r.slot with
  | some s => s.owner == call && s.requested
  | none => false

/-- Can a request to cancel be accepted? -/
def acceptsCancel (r : Runner) : Bool :=
  match r.slot with
  | some s => s.heard
  | none => false

/-- Asks to cancel the call in progress. A request that is not accepted changes nothing. -/
def cancel (r : Runner) : Runner :=
  if r.acceptsCancel then { r with slot := r.slot.map fun s => { s with requested := true } } else r

/-- Opens the slot for a call. -/
def openSlot (r : Runner) (call : Nat) : Runner := { r with slot := some ⟨call, false, true⟩ }

/-- Makes the slot empty. -/
def clearSlot (r : Runner) : Runner := { r with slot := none }

/-- The call no longer listens to the slot. -/
def stopListening (r : Runner) (call : Nat) : Runner :=
  { r with slot := r.slot.map fun s => if s.owner = call then { s with heard := false } else s }

/-- Writes the plan into a repository, if the runner is set up to do so. -/
def writePlan (r : Runner) (c : Configuration) (repository : String) : Runner × Except ExecutionFault Unit :=
  if r.setup.writesPlan then
    let path := planPath repository
    match (FileTree.replaceFile [] path (PlanText.render c)).on r.files with
    | (files, .ok _) => ({ r with files := files }, .ok ())
    | (files, .error fault) => ({ r with files := files }, .error (.prepare path fault))
  else (r, .ok ())

/-- Finds the repository of a request, writes the plan into it and says what the engine is to run. -/
def prepare (r : Runner) (id : String) (q : RunRequest) : Runner × Except ExecutionFault RunSpec :=
  match r.files.resolve r.setup.here q.repository with
  | .error fault => (r, .error (.prepare q.repository fault))
  | .ok (place, _) =>
    let repository := Path.absolute place
    match r.writePlan q.configuration repository with
    | (r, .error fault) => (r, .error fault)
    | (r, .ok _) => (r, .ok (.ofConfiguration q.configuration repository r.setup.image (containerName id)))

end Runner

end LintPlan
