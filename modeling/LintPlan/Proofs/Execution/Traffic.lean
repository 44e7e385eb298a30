import LintPlan.Proofs.Execution.Delivery
import Mathlib.Data.List.Basic
import Mathlib.Data.List.Induction

/-!
# Traffic on an event bus

A bus is used in any order: somebody subscribes, a receiver is dropped, an event is emitted, a mailbox is emptied. The uses
themselves say what each receiver is to get and which receivers the bus has to know, without a look at any mailbox; the bus
keeps to it.

* **`since`** — the uses since a subscription; **`listening`** and **`dropped`** sort the receivers by them.
* **`inOrder_act`** — the step lemma: who listens has received what was emitted since its subscription.
* **`subscriberCount_append`** — until the next event the bus forgets nobody.
* **`traffic_faithful`** — what every receiver has got and how many the bus knows, whatever was done with it.
-/

namespace LintPlan

/-! ## §1 — uses

The bus with its receivers, and everything that can be done with it. -/

/-- Something that is done with a bus. -/
inductive BusUse where
  /-- Somebody subscribes. -/
  | subscribe
  /-- The receiver of the subscription with this number is dropped. -/
  | leave (number : Nat)
  /-- An event is emitted. -/
  | emit (event : ExecutionEvent)
  /-- The receiver of the subscription with this number takes out what is in its mailbox. -/
  | drain (number : Nat)
  deriving DecidableEq, Repr

/-- A bus, with what its receivers have taken out of their mailboxes. -/
structure Traffic where
  bus : EventBus
  drained : Nat → List ExecutionEvent

namespace Traffic

def start : Traffic := ⟨.empty, fun _ => []⟩

def act (t : Traffic) : BusUse → Traffic
  | .subscribe => { t with bus := t.bus.subscribe }
  | .leave number => { t with bus := t.bus.leave number }
  | .emit event => { t with bus := t.bus.emit event }
  | .drain number =>
    { bus := t.bus.clear number
      drained := fun k => if k = number then t.drained k ++ t.bus.pending k else t.drained k }

/-- A new bus after some uses. -/
def ofUses (uses : List BusUse) : Traffic := uses.foldl act start

theorem ofUses_concat (uses : List BusUse) (u : BusUse) : ofUses (uses ++ [u]) = (ofUses uses).act u := by
  rw [ofUses, List.foldl_append]
  rfl

/-- All that a receiver has got: what it has taken out and what waits in its mailbox. -/
def received (t : Traffic) (number : Nat) : List ExecutionEvent := t.drained number ++ t.bus.pending number

/-! ## §2 — what the uses say

What should be received, from the uses alone. -/

def emitted (uses : List BusUse) : List ExecutionEvent :=
  uses.filterMap fun
    | .emit event => some event
    | _ => none

/-- The number of subscriptions, which is the number of the next one. -/
def subscriptions (uses : List BusUse) : Nat := uses.count .subscribe

/-- The uses since the subscription with this number. -/
def since (number : Nat) : List BusUse → List BusUse
  | [] => []
  | .subscribe :: rest => if number = 0 then rest else since (number - 1) rest
  | _ :: rest => since number rest

/-- The receivers that have not been dropped, by the numbers of their subscriptions. -/
def listening (uses : List BusUse) : List Nat :=
  (List.range (subscriptions uses)).filter fun number => .leave number ∉ since number uses

def dropped (uses : List BusUse) : List Nat :=
  (List.range (subscriptions uses)).filter fun number => .leave number ∈ since number uses

variable {uses earlier later : List BusUse} {u : BusUse} {number : Nat}

/-- What came since a subscription, in two parts: the subscription lies in the first or in the second. -/
theorem since_append (number : Nat) (earlier later : List BusUse) :
    since number (earlier ++ later) =
      if number < subscriptions earlier then since number earlier ++ later
      else since (number - subscriptions earlier) later := by
  -- along the uses, with the number counted down at every subscription
  induction earlier generalizing number with
  | nil => simp [subscriptions]
  | cons u rest ih =>
    cases u with
    | subscribe =>
      have hcount : subscriptions (.subscribe :: rest) = subscriptions rest + 1 := List.count_cons_self
      rw [List.cons_append, since, since, hcount]
      by_cases hzero : number = 0
      · simp [hzero]
      · have hlt : number - 1 < subscriptions rest ↔ number < subscriptions rest + 1 := by omega
        have hsub : number - 1 - subscriptions rest = number - (subscriptions rest + 1) := by omega
        rw [if_neg hzero, if_neg hzero, ih, hsub]
        simp only [hlt]
    | leave | emit | drain => exact ih number

theorem since_concat (h : number < subscriptions uses) : since number (uses ++ [u]) = since number uses ++ [u] := by
  rw [since_append, if_pos h]

theorem subscriptions_concat (hu : u ≠ .subscribe) : subscriptions (uses ++ [u]) = subscriptions uses := by
  simp [subscriptions, List.count_append, hu]

theorem mem_listening : number ∈ listening uses ↔ number < subscriptions uses ∧ .leave number ∉ since number uses := by
  simp [listening]

theorem mem_dropped : number ∈ dropped uses ↔ number < subscriptions uses ∧ .leave number ∈ since number uses := by
  simp [dropped]

/-- A new receiver listens. -/
theorem listening_subscribe : listening (uses ++ [.subscribe]) = listening uses ++ [subscriptions uses] := by
  have hnew : .leave (subscriptions uses) ∉ since (subscriptions uses) (uses ++ [.subscribe]) := by
    rw [since_append, if_neg (Nat.lt_irrefl _), Nat.sub_self, since]
    exact List.not_mem_nil
  have hcount : subscriptions (uses ++ [.subscribe]) = subscriptions uses + 1 := by
    simp [subscriptions, List.count_append]
  rw [listening, hcount, List.range_succ, List.filter_append, listening]
  congr 1
  · refine List.filter_congr fun number hnumber => ?_
    simp [since_concat (List.mem_range.mp hnumber)]
  · simp [hnew]

theorem listening_concat (hu : u ≠ .subscribe) :
    listening (uses ++ [u]) = (listening uses).filter fun number => u ≠ .leave number := by
  rw [listening, subscriptions_concat hu, listening, List.filter_filter]
  refine List.filter_congr fun number hnumber => ?_
  rw [since_concat (List.mem_range.mp hnumber)]
  simp [not_or, eq_comm, and_comm]

/-! ## §3 — what receivers get

The invariant that ties the two together. -/

/-- What the bus holds after some uses: the subscribers that listen are the receivers that were not dropped, and each of them
has received what was emitted since its subscription. -/
structure InOrder (uses : List BusUse) (t : Traffic) : Prop where
  next : t.bus.next = subscriptions uses
  listeners : (t.bus.subscribers.filter (·.listening)).map (·.id) = listening uses
  received : ∀ s ∈ t.bus.subscribers, s.listening = true → t.drained s.id ++ s.mailbox = emitted (since s.id uses)
  untouched : ∀ number, subscriptions uses ≤ number → t.drained number = []

variable {t : Traffic}

theorem InOrder.mem_listening {s : Subscriber} (h : InOrder uses t) (hs : s ∈ t.bus.subscribers)
    (hlistens : s.listening = true) : s.id ∈ listening uses := by
  rw [← h.listeners]
  exact List.mem_map_of_mem (List.mem_filter.mpr ⟨hs, hlistens⟩)

theorem InOrder.lt {s : Subscriber} (h : InOrder uses t) (hs : s ∈ t.bus.subscribers) (hlistens : s.listening = true) :
    s.id < subscriptions uses := (Traffic.mem_listening.mp (h.mem_listening hs hlistens)).1

/-- **A receiver that was not dropped is found under its number.** -/
theorem InOrder.listener? (h : InOrder uses t) (hnumber : number ∈ listening uses) :
    ∃ s, t.bus.listener? number = some s := by
  rw [← h.listeners] at hnumber
  obtain ⟨x, hx, rfl⟩ := List.mem_map.mp hnumber
  obtain ⟨hmem, hlistens⟩ := List.mem_filter.mp hx
  rw [← Option.isSome_iff_exists, EventBus.listener?, List.find?_isSome]
  exact ⟨x, hmem, by simp [hlistens]⟩

theorem InOrder.received_of_listener? {s : Subscriber} (h : InOrder uses t) (hs : t.bus.listener? number = some s) :
    number < subscriptions uses ∧ t.received number = emitted (since number uses) := by
  obtain ⟨hmem, rfl, hlistens⟩ := EventBus.mem_of_listener? hs
  refine ⟨h.lt hmem hlistens, ?_⟩
  rw [Traffic.received, EventBus.pending_of_listener? hs]
  exact h.received s hmem hlistens

/-- Taking events out keeps who listens. -/
theorem listeners_clear (b : EventBus) (number : Nat) :
    ((b.clear number).subscribers.filter (·.listening)).map (·.id) = (b.subscribers.filter (·.listening)).map (·.id) := by
  have hsame : ((fun s : Subscriber => s.listening) ∘ fun s => if s.id = number then { s with unread := [] } else s) =
      (·.listening) := by
    funext s
    by_cases hid : s.id = number <;> simp [hid]
  rw [EventBus.clear, EventBus.update, List.filter_map, List.map_map, hsame]
  refine List.map_congr_left fun s _ => ?_
  by_cases hid : s.id = number <;> simp [hid]

/-- Leaving takes away one. -/
theorem listeners_leave (b : EventBus) (number : Nat) :
    ((b.leave number).subscribers.filter (·.listening)).map (·.id) =
      ((b.subscribers.filter (·.listening)).map (·.id)).filter (· ≠ number) := by
  rw [EventBus.leave, EventBus.update, List.filter_map, List.map_map, List.filter_map, List.filter_filter]
  have hkept : ((fun s : Subscriber => s.listening) ∘ fun s => if s.id = number then { s with listening := false } else s) =
      fun s => ((fun k => decide (k ≠ number)) ∘ (·.id)) s && s.listening := by
    funext s
    by_cases hid : s.id = number <;> simp [hid]
  rw [hkept]
  refine List.map_congr_left fun s _ => ?_
  by_cases hid : s.id = number <;> simp [hid]

theorem filter_emit (b : EventBus) (e : ExecutionEvent) :
    (b.emit e).subscribers.filter (·.listening) = (b.emit e).subscribers := by
  -- an event is sent to the subscribers that are left when those who do not listen any more have been taken out
  rw [List.filter_eq_self]
  intro s hs
  obtain ⟨x, hx, rfl⟩ := List.mem_map.mp hs
  exact (List.mem_filter.mp hx).2

theorem listeners_emit (b : EventBus) (e : ExecutionEvent) :
    ((b.emit e).subscribers.filter (·.listening)).map (·.id) = (b.subscribers.filter (·.listening)).map (·.id) := by
  rw [filter_emit, EventBus.emit, List.map_map]
  rfl

theorem emitted_concat (h : number < subscriptions uses) :
    emitted (since number (uses ++ [u])) = emitted (since number uses) ++ emitted [u] := by
  rw [since_concat h, emitted, List.filterMap_append]
  rfl

/-- **The step lemma.** -/
theorem inOrder_act (h : InOrder uses t) (u : BusUse) : InOrder (uses ++ [u]) (t.act u) := by
  cases u with
  | subscribe =>
    have hcount : subscriptions (uses ++ [.subscribe]) = subscriptions uses + 1 := by
      simp [subscriptions, List.count_append]
    refine ⟨?_, ?_, ?_, ?_⟩
    · show t.bus.next + 1 = _
      rw [hcount, h.next]
    · have hnew : t.bus.subscribe.subscribers = t.bus.subscribers ++ [⟨t.bus.next, true, []⟩] := rfl
      show (t.bus.subscribe.subscribers.filter (·.listening)).map (·.id) = _
      rw [listening_subscribe, hnew, List.filter_append, List.map_append, h.listeners, h.next]
      rfl
    · intro s hs hlistens
      rcases List.mem_append.mp hs with hs | hs
      · rw [emitted_concat (h.lt hs hlistens)]
        show t.drained s.id ++ s.mailbox = _ ++ []
        rw [List.append_nil, h.received s hs hlistens]
      · -- the new receiver has taken out nothing, and nothing was emitted since it came
        obtain rfl := List.mem_singleton.mp hs
        have hnone : t.drained t.bus.next = [] := h.untouched _ (Nat.le_of_eq h.next.symm)
        have hsince : since t.bus.next (uses ++ [.subscribe]) = [] := by
          rw [since_append, h.next, if_neg (Nat.lt_irrefl _), Nat.sub_self]
          rfl
        show t.drained t.bus.next ++ [] = _
        rw [hnone, hsince]
        rfl
    · intro number hnumber
      exact h.untouched number (by omega)
  | leave k =>
    have hu : BusUse.leave k ≠ .subscribe := nofun
    refine ⟨?_, ?_, ?_, ?_⟩
    · rw [subscriptions_concat hu]
      exact h.next
    · show ((t.bus.leave k).subscribers.filter (·.listening)).map (·.id) = _
      rw [listeners_leave, h.listeners, listening_concat hu]
      simp [eq_comm]
    · intro s' hs' hlistens
      obtain ⟨s, hs, rfl⟩ := List.mem_map.mp hs'
      by_cases hid : s.id = k
      · rw [if_pos hid] at hlistens
        cases hlistens
      · rw [if_neg hid] at hlistens ⊢
        rw [emitted_concat (h.lt hs hlistens)]
        show t.drained s.id ++ s.mailbox = _ ++ []
        rw [List.append_nil, h.received s hs hlistens]
    · rw [subscriptions_concat hu]
      exact h.untouched
  | emit e =>
    have hu : BusUse.emit e ≠ .subscribe := nofun
    refine ⟨?_, ?_, ?_, ?_⟩
    · rw [subscriptions_concat hu]
      exact h.next
    · show ((t.bus.emit e).subscribers.filter (·.listening)).map (·.id) = _
      rw [listeners_emit, h.listeners, listening_concat hu]
      exact (List.filter_eq_self.mpr fun _ _ => rfl).symm
    · intro s' hs' hlistens
      obtain ⟨s, hs, rfl⟩ := List.mem_map.mp hs'
      obtain ⟨hs, hlistens⟩ := List.mem_filter.mp hs
      show t.drained s.id ++ (s.receive e).mailbox = emitted (since s.id _)
      rw [emitted_concat (h.lt hs hlistens), Subscriber.mailbox_receive, ← List.append_assoc, h.received s hs hlistens]
      rfl
    · rw [subscriptions_concat hu]
      exact h.untouched
  | drain k =>
    have hu : BusUse.drain k ≠ .subscribe := nofun
    refine ⟨?_, ?_, ?_, ?_⟩
    · rw [subscriptions_concat hu]
      exact h.next
    · show ((t.bus.clear k).subscribers.filter (·.listening)).map (·.id) = _
      rw [listeners_clear, h.listeners, listening_concat hu]
      exact (List.filter_eq_self.mpr fun _ _ => rfl).symm
    · intro s' hs' hlistens
      obtain ⟨s, hs, rfl⟩ := List.mem_map.mp hs'
      by_cases hid : s.id = k
      · -- what waited has been taken out, by whoever is found under the number
        subst hid
        rw [if_pos rfl] at hlistens ⊢
        have hlistens' : s.listening = true := hlistens
        obtain ⟨x, hx⟩ := h.listener? (h.mem_listening hs hlistens')
        show (if s.id = s.id then t.received s.id else t.drained s.id) ++ [] = emitted (since s.id _)
        rw [if_pos rfl, emitted_concat (h.lt hs hlistens'), (h.received_of_listener? hx).2]
        rfl
      · rw [if_neg hid] at hlistens ⊢
        rw [emitted_concat (h.lt hs hlistens)]
        show (if s.id = k then t.received s.id else t.drained s.id) ++ s.mailbox = _ ++ []
        rw [if_neg hid, List.append_nil, h.received s hs hlistens]
    · intro number hnumber
      rw [subscriptions_concat hu] at hnumber
      show (if number = k then t.received number else t.drained number) = []
      have hpending : t.bus.pending number = [] := by
        cases hs : t.bus.listener? number with
        | none => rw [EventBus.pending, hs]
        | some s => exact absurd (h.received_of_listener? hs).1 (Nat.not_lt.mpr hnumber)
      rw [Traffic.received, hpending, h.untouched number hnumber]
      simp

/-- **Every order of uses.** -/
theorem inOrder_ofUses (uses : List BusUse) : InOrder uses (ofUses uses) := by
  induction uses using List.reverseRecOn with
  | nil =>
    refine ⟨rfl, rfl, ?_, fun _ _ => rfl⟩
    intro s hs
    cases hs
  | append_singleton uses u ih =>
    rw [ofUses_concat]
    exact inOrder_act ih u

/-! ## §4 — how many the bus knows

The bus learns that a receiver is gone when it emits the next time. -/

/-- Between two events the bus forgets nobody. -/
theorem subscriberCount_act (t : Traffic) (hquiet : emitted [u] = []) :
    (t.act u).bus.subscriberCount = t.bus.subscriberCount + subscriptions [u] := by
  cases u with
  | subscribe => exact List.length_append
  | leave | drain => exact List.length_map _
  | emit e => cases hquiet

/-- While nothing is emitted nobody is forgotten, so all new ones add up. -/
theorem subscriberCount_append (earlier : List BusUse) (hquiet : emitted later = []) :
    (ofUses (earlier ++ later)).bus.subscriberCount = (ofUses earlier).bus.subscriberCount + subscriptions later := by
  induction later using List.reverseRecOn with
  | nil => rw [List.append_nil, subscriptions, List.count_nil, Nat.add_zero]
  | append_singleton later u ih =>
    have hparts : emitted later = [] ∧ emitted [u] = [] := by
      rwa [emitted, List.filterMap_append, List.append_eq_nil_iff] at hquiet
    have hone := subscriberCount_act (ofUses (earlier ++ later)) hparts.2
    rw [ih hparts.1] at hone
    rw [← List.append_assoc, ofUses_concat, hone, Nat.add_assoc]
    congr 1
    exact List.count_append.symm

/-- **Right after an event the bus knows who listens, and nobody else.** -/
theorem subscriberCount_emit (uses : List BusUse) (e : ExecutionEvent) :
    (ofUses (uses ++ [.emit e])).bus.subscriberCount = (listening (uses ++ [.emit e])).length := by
  rw [← (inOrder_ofUses _).listeners, List.length_map, ofUses_concat]
  show ((ofUses uses).bus.emit e).subscribers.length = (((ofUses uses).bus.emit e).subscribers.filter _).length
  rw [filter_emit]

theorem dropped_append (h : number ∈ dropped earlier) : .leave number ∈ since number (earlier ++ later) := by
  obtain ⟨hlt, hleave⟩ := mem_dropped.mp h
  rw [since_append, if_pos hlt]
  exact List.mem_append_left later hleave

/-- The receivers that were not dropped before some later uses: those of before, and those who came later. -/
theorem length_not_dropped (earlier later : List BusUse) :
    ((List.range (subscriptions (earlier ++ later))).filter (· ∉ dropped earlier)).length =
      (listening earlier).length + subscriptions later := by
  have hcount : subscriptions (earlier ++ later) = subscriptions earlier + subscriptions later := List.count_append
  have hbefore : (List.range (subscriptions earlier)).filter (· ∉ dropped earlier) = listening earlier := by
    refine List.filter_congr fun number hnumber => ?_
    simp [mem_dropped, List.mem_range.mp hnumber]
  have hlater : ((List.range (subscriptions later)).map (subscriptions earlier + ·)).filter (· ∉ dropped earlier) =
      (List.range (subscriptions later)).map (subscriptions earlier + ·) := by
    rw [List.filter_eq_self]
    intro number hnumber
    obtain ⟨k, -, rfl⟩ := List.mem_map.mp hnumber
    simp [mem_dropped]
  rw [hcount, List.range_add, List.filter_append, List.length_append, hbefore, hlater, List.length_map, List.length_range]

/-- **Who was not dropped before some later uses still listens, or was dropped since.** -/
theorem length_listening_append (earlier later : List BusUse) :
    (listening (earlier ++ later)).length + ((dropped (earlier ++ later)).filter (· ∉ dropped earlier)).length =
      (listening earlier).length + subscriptions later := by
  have hlistening : ((List.range (subscriptions (earlier ++ later))).filter (· ∉ dropped earlier)).filter
      (fun number => .leave number ∉ since number (earlier ++ later)) = listening (earlier ++ later) := by
    rw [listening, List.filter_filter]
    refine List.filter_congr fun number _ => ?_
    have hstill : .leave number ∉ since number (earlier ++ later) → number ∉ dropped earlier := mt dropped_append
    simpa using hstill
  have hdropped : ((List.range (subscriptions (earlier ++ later))).filter (· ∉ dropped earlier)).filter
      (fun number => !decide (.leave number ∉ since number (earlier ++ later))) =
        (dropped (earlier ++ later)).filter (· ∉ dropped earlier) := by
    have hall : dropped (earlier ++ later) = (List.range (subscriptions (earlier ++ later))).filter
        fun number => .leave number ∈ since number (earlier ++ later) := rfl
    rw [List.filter_filter, hall, List.filter_filter]
    refine List.filter_congr fun number _ => ?_
    simp [Bool.and_comm]
  rw [← length_not_dropped earlier later, ← hlistening, ← hdropped]
  exact (List.length_eq_length_filter_add _).symm

/-! ## §5 — together

All clauses for any uses. -/

/-- What a new bus has done after some uses. -/
structure Faithful (uses : List BusUse) : Prop where
  /-- Whoever has not been dropped has got what was emitted since its own subscription, in this order and each event once. -/
  received : ∀ number ∈ listening uses, (ofUses uses).received number = emitted (since number uses)
  /-- Right after an event the bus knows as many subscribers as have not been dropped. -/
  afterEmit : ∀ earlier event, uses = earlier ++ [.emit event] →
    (ofUses uses).bus.subscriberCount = (listening uses).length
  /-- Later on, those who have been dropped since the last event, or since the start if there was none, count as well. -/
  sinceEmit : ∀ earlier later, uses = earlier ++ later → emitted later = [] →
    (earlier = [] ∨ ∃ before event, earlier = before ++ [.emit event]) →
    (ofUses uses).bus.subscriberCount =
      (listening uses).length + ((dropped uses).filter (· ∉ dropped earlier)).length

/-- **The bus is faithful to every receiver**, whoever else comes and goes. -/
theorem traffic_faithful (uses : List BusUse) : Faithful uses := by
  refine ⟨?_, ?_, ?_⟩
  · intro number hnumber
    obtain ⟨s, hs⟩ := (inOrder_ofUses uses).listener? hnumber
    exact ((inOrder_ofUses uses).received_of_listener? hs).2
  · rintro earlier event rfl
    exact subscriberCount_emit earlier event
  · rintro earlier later rfl hquiet hlast
    have hearlier : (ofUses earlier).bus.subscriberCount = (listening earlier).length := by
      rcases hlast with rfl | ⟨before, event, rfl⟩
      · rfl
      · exact subscriberCount_emit before event
    rw [subscriberCount_append earlier hquiet, hearlier, length_listening_append]

/-- Two receivers, of which the first is dropped between two events. -/
example :
    let uses : List BusUse :=
      [.subscribe, .emit (.toolStarted "a" "ruff"), .subscribe, .leave 0, .emit (.toolStarted "a" "black"), .drain 1]
    listening uses = [1] ∧ (ofUses uses).received 1 = [.toolStarted "a" "black"] ∧
      (ofUses uses).bus.subscriberCount = 1 := by decide

end Traffic

end LintPlan
