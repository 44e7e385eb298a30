import LintPlan.Proofs.Execution.Delivery
import LintPlan.Proofs.Execution.Histories

/-!
# What each call tells

The bus does not say which call an event comes from. Here every event of a session is told by a call with a number, and all
of them together, in order, are what the bus gets:

* **`Transition.bus_eq`** — what a step tells.
* **`told_run`** — what a session tells.
-/

namespace LintPlan

/-- What a call at a stage tells by a move. -/
def Stage.tells (id : String) : Stage → Move → List ExecutionEvent
  | .checking, .noticeCancel => [.stateChanged id .cancelled]
  | .available, .goOn => [.stateChanged id .preparing]
  | .starting _, .start none => [.stateChanged id .running]
  | .running _ w, .line stream text => w.eventsOf id stream text
  | .reporting outcome, .goOn => [.stateChanged id outcome.state]
  | _, _ => []

/-- **What a step tells** goes to the bus, and nothing else does. -/
theorem Transition.bus_eq {id : String} {q : RunRequest} {n : Nat} {r r' : Runner} {st st' : Stage} {m : Move}
    (h : Transition id q n r st m r' st') : r'.bus = r.bus.emitAll (st.tells id m) := by
  cases h
  -- preparing changes files, and tells nothing of it
  case prepare hprepare | prepareFails hprepare =>
    obtain ⟨files, rfl⟩ := prepare_frame hprepare
    rfl
  all_goals rfl

namespace Session

/-- What is told by an action, and by which call. -/
def tells (s : Session) : Action → List (Nat × ExecutionEvent)
  | .move n m =>
    match s.calls[n]? with
    | some c => (c.stage.tells c.id m).map fun e => (n, e)
    | none => []
  | _ => []

/-- What is told by actions, as long as they are possible. -/
def told (s : Session) (actions : List Action) : List (Nat × ExecutionEvent) :=
  outputs Session.act (fun t a _ => t.tells a) s actions

end Session

variable {s s' t : Session} {actions : List Action} {a : Action} {n : Nat} {c : Call} {m : Move}

theorem tells_move (hc : s.calls[n]? = some c) : s.tells (.move n m) = (c.stage.tells c.id m).map fun e => (n, e) := by
  rw [Session.tells, hc]

/-- **What an action tells** goes to the bus, and nothing else does. -/
theorem tells_act (h : s.act a = some s') : s'.runner.bus = s.runner.bus.emitAll ((s.tells a).map Prod.snd) := by
  rcases act_cases h with ⟨id, q, rfl, rfl⟩ | ⟨rfl, rfl⟩ | ⟨n, c, m, r', st, rfl, hc, ht, rfl⟩
  · rfl
  · obtain ⟨slot, hslot⟩ := cancel_frame s.runner
    show s.runner.cancel.bus = s.runner.bus
    rw [hslot]
  · have hevents : (s.tells (.move n m)).map Prod.snd = c.stage.tells c.id m := by
      rw [tells_move hc, List.map_map]
      exact List.map_id _
    rw [hevents]
    exact ht.bus_eq

theorem told_concat (h : s.run actions = some t) (ha : t.act a = some s') :
    s.told (actions ++ [a]) = s.told actions ++ t.tells a := outputs_concat h ha

/-- **What a session tells is what the bus gets.** -/
theorem told_run (h : s.run actions = some t) : t.runner.bus = s.runner.bus.emitAll ((s.told actions).map Prod.snd) := by
  refine foldlM_history
    (I := fun before u => u.runner.bus = s.runner.bus.emitAll ((s.told before).map Prod.snd)) rfl ?_ h
  intro before u a u' hu ih ha
  rw [told_concat hu ha, List.map_append, EventBus.emitAll_append, ← ih]
  exact tells_act ha

/-- What a session tells, everybody gets who listened from the start. -/
theorem pending_told {number : Nat} {subscriber : Subscriber} (h : s.run actions = some t)
    (hlistens : s.runner.bus.listener? number = some subscriber) :
    t.runner.bus.pending number = s.runner.bus.pending number ++ (s.told actions).map Prod.snd := by
  rw [told_run h]
  exact EventBus.pending_emitAll hlistens _

/-! ## §2 — lines

The lines among what was told. -/

/-- The line of one pipe that an event shows, if call number `n` tells it of the execution with this identifier. -/
def lineOf (n : Nat) (id : String) (stream : OutputStream) : Nat × ExecutionEvent → Option String
  | (k, .output id' stream' line) => if k = n ∧ id' = id ∧ stream' = stream then some line else none
  | _ => none

/-- The lines of one pipe that call number `n` tells. -/
def linesTold (n : Nat) (id : String) (stream : OutputStream) (told : List (Nat × ExecutionEvent)) : List String :=
  told.filterMap (lineOf n id stream)

variable {id : String} {stream : OutputStream}

theorem linesTold_append (told more : List (Nat × ExecutionEvent)) :
    linesTold n id stream (told ++ more) = linesTold n id stream told ++ linesTold n id stream more :=
  List.filterMap_append

theorem linesTold_other {k : Nat} (hk : k ≠ n) (es : List ExecutionEvent) :
    linesTold n id stream (es.map fun e => (k, e)) = [] := by
  rw [linesTold, List.filterMap_map, List.filterMap_eq_nil_iff]
  intro e _
  cases e
  case output => exact if_neg fun h => hk h.1
  all_goals rfl

/-- A line that arrives is told, and no other line with it. -/
theorem linesTold_eventsOf (w : Watch) (stream' : OutputStream) (text : String) :
    linesTold n id stream ((w.eventsOf id stream' text).map fun e => (n, e)) = if stream' = stream then [text] else [] := by
  have hsingle : linesTold n id stream [(n, .output id stream' text)] = if stream' = stream then [text] else [] := by
    by_cases hs : stream' = stream <;> simp [linesTold, lineOf, hs]
  unfold Watch.eventsOf
  rw [List.map_append, linesTold_append, List.map_singleton, hsingle]
  -- the linter that the line may announce is no line
  cases w.newTool? text <;> rfl

/-- Nor do other actions. -/
theorem linesTold_tells_other (h : ∀ m, a ≠ .move n m) : linesTold n id stream (s.tells a) = [] := by
  cases a
  case move k m =>
    have hk : k ≠ n := by
      rintro rfl
      exact h m rfl
    show linesTold n id stream (match s.calls[k]? with | some c => _ | none => []) = []
    cases s.calls[k]? with
    | none => rfl
    | some c => exact linesTold_other hk _
  all_goals rfl

end LintPlan
