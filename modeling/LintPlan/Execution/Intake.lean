import LintPlan.Execution.Session
import LintPlan.Execution.Pipe
/-!
# From the pipes to a call

Each pipe of a container has a reader of its own, and both readers pass their lines on to one channel, from which the
call takes them. The readers are as fast or slow as they happen to be, so the lines of one pipe stay in order and those
of different pipes come in any order. A reader leaves at the end of its pipe, and at a line that is no text; there are
no more lines for the call when both have left and the channel is empty.
-/

namespace LintPlan

/-- What is on its way from the pipes of a container to its call. -/
structure Intake where
  /-- What the reader of a pipe has not come to, cut into lines; nothing once the reader has left. -/
  unread : OutputStream → Option (List (List UInt8))
  /-- Lines that were passed on and not taken yet, the oldest first. -/
  channel : List (OutputStream × String)

namespace Intake

/-- The readers of a container that writes these bytes, before the first line. -/
def start (written : OutputStream → List UInt8) : Intake where
  unread := fun stream => some (Pipe.pieces (written stream))
  channel := []

/-- The intake with something else to read from one pipe. -/
def withUnread (i : Intake) (stream : OutputStream) (pieces : Option (List (List UInt8))) : Intake :=
  { i with unread := fun other => if other = stream then pieces else i.unread other }

/-- The reader of a pipe reads: a line is passed on, and where there is none, or none that is a text, it leaves. -/
def read (i : Intake) (stream : OutputStream) : Option Intake :=
  match i.unread stream with
  | none => none
  | some [] => some (i.withUnread stream none)
  | some (piece :: more) =>
    match Pipe.text? piece with
    | some line => some { i.withUnread stream (some more) with channel := i.channel ++ [(stream, line)] }
    | none => some (i.withUnread stream none)

/-- Have both readers left, and is the channel empty? -/
def isOver (i : Intake) : Bool :=
  (i.unread .stdout).isNone && (i.unread .stderr).isNone && i.channel.isEmpty

/-- What is left on its way after a move of the call: a line is the oldest in the channel, the pipes are closed when
there are no more, and other moves take nothing. -/
def take (i : Intake) : Move → Option Intake
  | .line stream text =>
    match i.channel with
    | [] => none
    | oldest :: channel => if oldest = (stream, text) then some { i with channel := channel } else none
  | .pipesClose => if i.isOver then some i else none
  | _ => some i

end Intake

/-- A session in which the container of one call has written something. -/
structure Feed where
  session : Session
  /-- What is on its way to the call. -/
  intake : Intake

/-- Something that happens in such a session. -/
inductive FeedAction where
  /-- The reader of a pipe reads. -/
  | read (stream : OutputStream)
  /-- Something happens to the calls. -/
  | act (a : Action)
  deriving DecidableEq, Repr

namespace Feed

/-- What is left on its way to call number `number` after an action. -/
def take (f : Feed) (number : Nat) : Action → Option Intake
  | .move n m => if n = number then f.intake.take m else some f.intake
  | _ => some f.intake

/-- What an action leads to, if it is possible; the container is that of call number `number`. -/
def act (f : Feed) (number : Nat) : FeedAction → Option Feed
  | .read stream => (f.intake.read stream).map fun i => { f with intake := i }
  | .act a =>
    match f.take number a, f.session.act a with
    | some i, some s => some ⟨s, i⟩
    | _, _ => none

/-- What actions lead to, if all of them are possible. -/
def run (f : Feed) (number : Nat) (actions : List FeedAction) : Option Feed :=
  actions.foldlM (fun f a => f.act number a) f

end Feed

end LintPlan
