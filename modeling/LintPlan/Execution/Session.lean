import LintPlan.Execution.Call
/-!
# Sessions

A runner with all the calls that were made of it. Actions of different calls and requests to cancel may come in any
order; a session is what an order of actions leads to.
-/

namespace LintPlan

/-- A runner and its calls. -/
structure Session where
  runner : Runner
  /-- The calls in the order in which they were made. -/
  calls : List Call

/-- Something that happens in a session. -/
inductive Action where
  /-- Somebody calls the runner; the execution would have this identifier. -/
  | call (id : String) (request : RunRequest)
  /-- Something happens to the call with a number. -/
  | move (number : Nat) (m : Move)
  /-- Somebody asks to cancel. -/
  | cancel
  deriving DecidableEq, Repr

namespace Session

/-- A session without calls. -/
def start (r : Runner) : Session := ⟨r, []⟩

/-- Somebody calls the runner. -/
def makeCall (s : Session) (id : String) (q : RunRequest) : Session :=
  { s with calls := s.calls ++ [⟨id, q, .arrived⟩] }

/-- What a move of a call leads to, if it is possible. -/
def move (s : Session) (number : Nat) (m : Move) : Option Session :=
  match s.calls[number]? with
  | none => none
  | some c =>
    (c.step number s.runner m).map fun next =>
      ⟨next.1, s.calls.set number { c with stage := next.2 }⟩

/-- What an action leads to, if it is possible. -/
def act (s : Session) : Action → Option Session
  | .call id q => some (s.makeCall id q)
  | .move number m => s.move number m
  | .cancel => some { s with runner := s.runner.cancel }

/-- What actions lead to, if all of them are possible. -/
def run (s : Session) (actions : List Action) : Option Session := actions.foldlM act s

/-- What the call with a number has returned, if it has. -/
def result? (s : Session) (number : Nat) : Option RunOutcome :=
  s.calls[number]?.bind fun c => c.stage.result?

end Session

end LintPlan
