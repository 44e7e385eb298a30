import LintPlan.Execution.Session
import LintPlan.Execution.Pipe
/-!
# The course of an execution

How an execution goes when nobody interferes: the engine has a behaviour, and its behaviour decides which moves come
and in which order. Standard output is read before standard error, and the exit is noticed last.
-/

namespace LintPlan

/-- How a process comes to its end. -/
inductive Ending where
  /-- It exits by itself. -/
  | exits (code : ExitCode)
  /-- It runs for some seconds and then exits with a code, unless it is stopped before. -/
  | hangs (seconds : Nat) (code : ExitCode)
  deriving DecidableEq, Repr

/-- How a container engine behaves. -/
structure EngineBehaviour where
  /-- Seconds until it says whether it is available. -/
  checkSeconds : Nat
  available : Bool
  /-- What is in the way of starting a container. -/
  startFault : Option OsFault
  /-- What the container writes to standard output. -/
  stdout : List UInt8
  /-- What the container writes to standard error. -/
  stderr : List UInt8
  /-- How the container comes to its end. -/
  ending : Ending
  /-- How the container is told to stop. -/
  attempt : StopAttempt
  /-- Does the container obey? -/
  obeys : Bool
  deriving DecidableEq, Repr

namespace EngineBehaviour

/-- The lines that the container writes. -/
def lines (b : EngineBehaviour) : List Move :=
  (Pipe.lines b.stdout).map (Move.line .stdout) ++ (Pipe.lines b.stderr).map (Move.line .stderr)

/-- The container is told to stop: it exits by the signal, or outlasts the grace period. -/
def stopping (b : EngineBehaviour) : List Move :=
  .stop b.attempt :: (if b.obeys then [.exit none, .noticeExit] else [.graceOver])

/-- The container runs until the time is up. -/
def overrunning (b : EngineBehaviour) : List Move := .timeUp :: b.stopping

/-- The container exits, and everything is noticed. -/
def exiting (code : ExitCode) : List Move := [.exit code, .pipesClose, .noticeExit]

/-- The container comes to its end within a budget of seconds, or the time is up before. -/
def untilEnd (b : EngineBehaviour) (budget : Nat) : List Move :=
  match b.ending with
  | .exits code => exiting code
  | .hangs seconds code => if seconds < budget then exiting code else b.overrunning

/-- The moves from the check on, for a budget of seconds. When there is no time at all, it is up before the first
line. -/
def moves (b : EngineBehaviour) (budget : Nat) : List Move :=
  [.answer b.checkSeconds b.available, .start b.startFault] ++
    (if budget = 0 then b.overrunning else b.lines ++ b.untilEnd budget)

/-- The moves of a call that has been cancelled: during the check it returns, later its container is stopped. -/
def cancelled (b : EngineBehaviour) : List Move := .noticeCancel :: b.stopping

end EngineBehaviour

namespace Session

/-- The most steps that a call takes by itself between two moves from outside: three up to the start of its container,
and five from an outcome to the end. -/
def mostSteps : Nat := 8

/-- The call goes on by itself for some steps, as long as it can. -/
def goOn (s : Session) (number : Nat) : Nat → Session
  | 0 => s
  | n + 1 =>
    match s.move number .goOn with
    | some next => next.goOn number n
    | none => s

/-- A move happens, if it is possible, and the call goes on by itself as far as it can. -/
def follow (s : Session) (number : Nat) (m : Move) : Session :=
  ((s.move number m).getD s).goOn number mostSteps

/-- Somebody calls the runner, and the call goes on by itself as far as it can. -/
def enter (s : Session) (id : String) (q : RunRequest) : Session :=
  (s.makeCall id q).goOn s.calls.length mostSteps

/-- Moves happen one after the other. -/
def followAll (s : Session) (number : Nat) (ms : List Move) : Session :=
  ms.foldl (fun s m => s.follow number m) s

/-- The last second that a clock can show. What it shows when an execution begins is left out of account. -/
def lastSecond : Nat := 9223372036854775807

/-- Is the end of an execution more than a clock can show? A runner that is busy does not work it out. -/
def outrunsClock (s : Session) (q : RunRequest) : Bool := !s.runner.busy && lastSecond < q.budget

/-- Somebody calls the runner, and the engine behaves as it does until the call returns. It never does if its end is more than
the clock can show: working it out brings the program down. -/
def execute (s : Session) (id : String) (q : RunRequest) (b : EngineBehaviour) : Session :=
  if s.outrunsClock q then s.makeCall id q
  else (s.enter id q).followAll s.calls.length (b.moves q.budget)

end Session

end LintPlan
