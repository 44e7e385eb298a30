import LintPlan.Execution.Session
/-!
# Sessions with a clock

How long a container that was told to stop is given to exit. The grace period begins when the attempt to stop it is over,
whatever came of the attempt, and the process is killed at the end of it at the earliest. A container is told to stop by
the engine's own command, if the engine has one, and by a signal otherwise.
-/

namespace LintPlan

/-- Is it an attempt by the engine's own command for stopping, whatever came of the command? -/
def StopAttempt.isByCommand : StopAttempt → Bool
  | .signal => false
  | .command _ | .commandNotStarted | .commandLate => true

/-- How containers are stopped. -/
structure StopPolicy where
  /-- Does the engine have a command for stopping? -/
  hasCommand : Bool
  /-- The grace period in milliseconds. -/
  grace : Nat
  deriving DecidableEq, Repr

/-- A session with a clock. -/
structure Clocked where
  session : Session
  /-- Milliseconds that have passed. -/
  now : Nat
  /-- When the attempt to stop the container of a call was over, if there was one. -/
  told : Nat → Option Nat

/-- Something that happens in such a session. -/
inductive ClockedAction where
  /-- Time passes. -/
  | pass (milliseconds : Nat)
  /-- Something happens to the calls. -/
  | act (a : Action)
  deriving DecidableEq, Repr

namespace Clocked

/-- A session whose clock starts. -/
def start (s : Session) : Clocked := ⟨s, 0, fun _ => none⟩

/-- Does the policy allow an action now? Containers are told to stop as it says, and the grace period is over only when so
much time has passed since. -/
def allows (k : Clocked) (p : StopPolicy) : Action → Bool
  | .move _ (.stop attempt) => attempt.isByCommand == p.hasCommand
  | .move n .graceOver => (k.told n).any fun since => since + p.grace ≤ k.now
  | _ => true

/-- When the attempts to stop containers were over, after an action. -/
def toldAfter (k : Clocked) : Action → Nat → Option Nat
  | .move n (.stop _) => fun m => if m = n then some k.now else k.told m
  | _ => k.told

/-- What an action leads to, if it is possible. -/
def act (k : Clocked) (p : StopPolicy) : ClockedAction → Option Clocked
  | .pass milliseconds => some { k with now := k.now + milliseconds }
  | .act a =>
    if k.allows p a then (k.session.act a).map fun s => { k with session := s, told := k.toldAfter a } else none

/-- What actions lead to, if all of them are possible. -/
def run (k : Clocked) (p : StopPolicy) (actions : List ClockedAction) : Option Clocked :=
  actions.foldlM (fun k a => k.act p a) k

end Clocked

end LintPlan
