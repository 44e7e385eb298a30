import LintPlan.Execution.Runner
/-!
# Calls of a runner

One call goes through stages: it is let in, checks that the engine is available, prepares the repository, starts the
container, watches it, stops it if it has to, and leaves. Each step is one that no other call and no request to cancel
can divide; what comes from outside – answers, lines, exits, time that is up – comes as a move, in any order in which
it is possible at all.

The flag and the slot are given up in several steps on the way out, as somebody may look at either of them in between.
-/

namespace LintPlan

/-- What comes of running a container. -/
abbrev RunOutcome := Except ExecutionFault Captured

/-- A container that was started. -/
structure Container where
  /-- What the engine was asked to run. -/
  spec : RunSpec
  /-- How its process exited, if it did. -/
  exit : Option ExitCode
  deriving DecidableEq, Repr

/-- How far a call has come. -/
inductive Stage where
  /-- It has just been made. -/
  | arrived
  /-- It is the only one in progress, and cannot be cancelled yet. -/
  | admitted
  /-- It waits for the engine to say that it is available. -/
  | checking
  /-- The engine is available. -/
  | available
  /-- It prepares the repository. -/
  | preparing
  /-- The repository is prepared, and the engine has been asked how to run the container. -/
  | prepared (spec : RunSpec)
  /-- It starts the container. -/
  | starting (spec : RunSpec)
  /-- It watches the container. -/
  | running (container : Container) (watch : Watch)
  /-- It has to stop the container. -/
  | stopping (container : Container) (why : ExecutionFault)
  /-- It has told the container to stop, and waits for the end of the grace period. -/
  | waiting (container : Container) (why : ExecutionFault)
  /-- It kills the process. -/
  | killing (container : Container) (why : ExecutionFault)
  /-- There is an outcome. -/
  | ended (outcome : RunOutcome)
  /-- There is an outcome, and the call cannot be cancelled any more. -/
  | reporting (outcome : RunOutcome)
  /-- It is about to return. -/
  | leaving (outcome : RunOutcome)
  /-- It does not listen to requests any more. -/
  | deaf (outcome : RunOutcome)
  /-- It has nothing left but the flag. -/
  | released (outcome : RunOutcome)
  /-- It has returned. -/
  | returned (outcome : RunOutcome)

namespace Stage

/-- What a call has returned, if it has. -/
def result? : Stage → Option RunOutcome
  | returned outcome => some outcome
  | _ => none

/-- Is the call past the door and not out again? -/
def isLive : Stage → Bool
  | arrived => false
  | returned _ => false
  | _ => true

/-- Where a call that watches a container is after it has seen something: at the end, once nothing more can be seen. -/
def watching (container : Container) (w : Watch) : Stage :=
  match w.outcome? with
  | some outcome => ended outcome
  | none => running container w

end Stage

/-- What may happen to a call. -/
inductive Move where
  /-- It goes on by itself. -/
  | goOn
  /-- The engine says, after some seconds, whether it is available. -/
  | answer (seconds : Nat) (available : Bool)
  /-- It notices that it is cancelled. -/
  | noticeCancel
  /-- The process of the container is started, unless something is in the way. -/
  | start (fault : Option OsFault)
  /-- The process exits. -/
  | exit (code : ExitCode)
  /-- A line arrives. -/
  | line (stream : OutputStream) (text : String)
  /-- Both pipes are at their end. -/
  | pipesClose
  /-- It notices that the process has exited. -/
  | noticeExit
  /-- It cannot wait for the process. -/
  | waitFails (fault : OsFault)
  /-- The time is up. -/
  | timeUp
  /-- The container is told to stop. -/
  | stop (attempt : StopAttempt)
  /-- The grace period is over. -/
  | graceOver
  deriving DecidableEq, Repr

/-- The state at the end of an execution. -/
def RunOutcome.state : RunOutcome → ExecutionState
  | .ok _ => .completed
  | .error (.timedOut _) => .timedOut
  | .error .cancelled => .cancelled
  | .error _ => .failed

/-- One call. -/
structure Call where
  id : String
  request : RunRequest
  /-- How far it has come. -/
  stage : Stage

namespace Call

/-- A call on its way to the container: what a move does to the runner and to the stage. -/
def approach (c : Call) (number : Nat) (r : Runner) : Move → Option (Runner × Stage)
  | .goOn =>
    match c.stage with
    | .arrived => some (if r.busy then (r, .returned (.error .busy)) else ({ r with busy := true }, .admitted))
    | .admitted => some (r.openSlot number, .checking)
    | .available => some (r.enter c.id .preparing, .preparing)
    | .preparing =>
      match r.prepare c.id c.request with
      | (r, .ok spec) => some (r.note (.described spec), .prepared spec)
      | (r, .error fault) => some (r, .ended (.error fault))
    | .prepared spec =>
      some (r, if r.isCancelled number then .ended (.error .cancelled) else .starting spec)
    | _ => none
  | .answer seconds available =>
    match c.stage with
    | .checking =>
      some (r, if available && seconds ≤ c.request.checkBudget then .available
               else .leaving (.error (.unavailable r.setup.engine)))
    | _ => none
  | .noticeCancel =>
    match c.stage with
    | .checking =>
      if r.isCancelled number then some (r.enter c.id .cancelled, .leaving (.error .cancelled)) else none
    | _ => none
  | .start fault =>
    match c.stage, fault with
    | .starting spec, none =>
      some ((r.note (.started spec)).enter c.id .running,
            .running ⟨spec, none⟩ (.start c.request.configuration.linters.enabledNames))
    | .starting _, some fault => some (r, .ended (.error (.spawn r.setup.engine fault)))
    | _, _ => none
  | _ => none

/-- A call with a container: what a move does to the runner and to the stage. -/
def attend (c : Call) (number : Nat) (r : Runner) (k : Container) (w : Watch) :
    Move → Option (Runner × Stage)
  | .exit code => if k.exit.isNone then some (r, .running { k with exit := some code } w) else none
  | .line stream text =>
    if w.pipesOpen then some (r.emitAll (w.eventsOf c.id stream text), .running k (w.add stream text)) else none
  | .pipesClose => if w.pipesOpen then some (r, .watching k { w with pipesOpen := false }) else none
  | .noticeExit =>
    if w.exit.isNone && k.exit.isSome then some (r.note .waitedFor, .watching k { w with exit := k.exit }) else none
  | .waitFails fault =>
    if w.exit.isNone then some (r, .ended (.error (.spawn r.setup.engine fault))) else none
  | .timeUp => some (r, .stopping k (.timedOut c.request.budget))
  | .noticeCancel => if r.isCancelled number then some (r, .stopping k .cancelled) else none
  | _ => none

/-- A call that stops its container: first it is told to stop, then there is the grace period, then it is killed. -/
def subdue (c : Call) (r : Runner) : Move → Option (Runner × Stage)
  | .exit code =>
    match c.stage with
    | .stopping ⟨spec, none⟩ why => some (r, .stopping ⟨spec, some code⟩ why)
    | .waiting ⟨spec, none⟩ why => some (r, .waiting ⟨spec, some code⟩ why)
    | _ => none
  | .stop attempt =>
    match c.stage with
    | .stopping k why => some (r.note (.toldToStop attempt), .waiting k why)
    | _ => none
  | .noticeExit =>
    match c.stage with
    | .waiting ⟨_, some _⟩ why => some (r.note .waitedFor, .ended (.error why))
    | _ => none
  | .graceOver =>
    match c.stage with
    | .waiting ⟨spec, none⟩ why => some (r.note .outlastedGrace, .killing ⟨spec, none⟩ why)
    | _ => none
  | .goOn =>
    match c.stage with
    | .killing _ why => some ((r.note .killed).note .waitedFor, .ended (.error why))
    | _ => none
  | _ => none

/-- A call on its way out. -/
def depart (c : Call) (number : Nat) (r : Runner) : Option (Runner × Stage) :=
  match c.stage with
  | .ended outcome => some (r.clearSlot, .reporting outcome)
  | .reporting outcome => some (r.enter c.id outcome.state, .leaving outcome)
  | .leaving outcome => some (r.stopListening number, .deaf outcome)
  | .deaf outcome => some (r.clearSlot, .released outcome)
  | .released outcome => some ({ r with busy := false }, .returned outcome)
  | _ => none

/-- What a move does to the runner and to the stage of a call; there is nothing if the move is not possible. -/
def step (c : Call) (number : Nat) (r : Runner) (m : Move) : Option (Runner × Stage) :=
  match c.stage with
  | .running k w => c.attend number r k w m
  | .stopping .. | .waiting .. | .killing .. => c.subdue r m
  | .ended _ | .reporting _ | .leaving _ | .deaf _ | .released _ =>
    if m = .goOn then c.depart number r else none
  | .returned _ => none
  | _ => c.approach number r m

end Call

end LintPlan
