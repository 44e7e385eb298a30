import LintPlan.Execution.Event
/-!
# Event bus

Any number of subscribers, each of which gets every event from its subscription on. Nothing waits for a
subscriber: events pile up in its mailbox until they are drained. The bus learns that a subscriber has
gone only when it next emits an event.
-/

namespace LintPlan

/-- A subscriber that the bus knows of. -/
structure Subscriber where
  /-- The number of the subscription. -/
  id : Nat
  /-- Is somebody still listening? -/
  listening : Bool
  /-- Events that were not drained yet, the newest first. -/
  unread : List ExecutionEvent
  deriving DecidableEq, Repr

namespace Subscriber

/-- Receives an event; nobody reads the mailbox of a subscriber that has gone. -/
def receive (s : Subscriber) (e : ExecutionEvent) : Subscriber := { s with unread := e :: s.unread }

/-- The events that were not drained yet, in the order in which they were emitted. -/
def mailbox (s : Subscriber) : List ExecutionEvent := s.unread.reverse

/-- A new event is the last one in the mailbox. -/
theorem mailbox_receive (s : Subscriber) (e : ExecutionEvent) :
    (s.receive e).mailbox = s.mailbox ++ [e] := List.reverse_cons

end Subscriber

/-- The subscribers that a bus knows of. -/
structure EventBus where
  /-- Subscribers in the order of their subscriptions. -/
  subscribers : List Subscriber
  /-- The number of the next subscription. -/
  next : Nat
  deriving DecidableEq, Repr

namespace EventBus

/-- A bus that nobody subscribed to. -/
def empty : EventBus := ⟨[], 0⟩

/-- Subscribes; the number of the subscription is the one that was next. -/
def subscribe (b : EventBus) : EventBus := ⟨b.subscribers ++ [⟨b.next, true, []⟩], b.next + 1⟩

/-- The subscriber with a number, as long as somebody is listening. -/
def listener? (b : EventBus) (id : Nat) : Option Subscriber :=
  b.subscribers.find? fun s => s.id == id && s.listening

/-- Changes the subscriber with a number. -/
def update (b : EventBus) (id : Nat) (f : Subscriber → Subscriber) : EventBus :=
  { b with subscribers := b.subscribers.map fun s => if s.id = id then f s else s }

/-- The subscriber with a number stops listening. -/
def leave (b : EventBus) (id : Nat) : EventBus := b.update id fun s => { s with listening := false }

/-- Empties the mailbox of the subscriber with a number. -/
def clear (b : EventBus) (id : Nat) : EventBus := b.update id fun s => { s with unread := [] }

/-- The events in the mailbox of the subscriber with a number. -/
def pending (b : EventBus) (id : Nat) : List ExecutionEvent :=
  match b.listener? id with
  | some s => s.mailbox
  | none => []

/-- Gives an event to everybody who is listening, and forgets those who are not. -/
def emit (b : EventBus) (e : ExecutionEvent) : EventBus :=
  { b with subscribers := (b.subscribers.filter (·.listening)).map (·.receive e) }

/-- Emits events in order. -/
def emitAll (b : EventBus) (es : List ExecutionEvent) : EventBus := es.foldl emit b

/-- The number of subscribers that the bus knows of. -/
def subscriberCount (b : EventBus) : Nat := b.subscribers.length

end EventBus

end LintPlan
