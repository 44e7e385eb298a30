import LintPlan.Proofs.Execution.Delivery
import LintPlan.Proofs.Execution.Transitions
import Mathlib.Data.List.Chain

/-!
# The grammar of events

What one call may tell the subscribers, as a language of lists of events, and why every call keeps to it.

* **`Block`** — the language: silence, a single `cancelled`, `preparing` with one state behind it, or `preparing`,
  `running`, what was heard from the container, and one state at the end.
* **`Told`** — what a call has told so far, by stage. It is what steps preserve.
* **`told_transition`** — the step lemma: a transition emits some events, and what was told before with these behind it is
  what the next stage asks for.
-/

namespace LintPlan

/-! ## §1 — the language

Blocks as a grammar: nothing, or the opening with what was heard, up to a last state. -/

/-- A line of output, with the linter that is announced in front of it, if one is. -/
structure Heard where
  tool : Option String
  stream : OutputStream
  line : String

/-- The events about a line of output. -/
def Heard.events (id : String) (x : Heard) : List ExecutionEvent :=
  (x.tool.map (ExecutionEvent.toolStarted id)).toList ++ [.output id x.stream x.line]

/-- The linters that were announced, in order. -/
def announced (heard : List Heard) : List String := heard.filterMap Heard.tool

/-- Output of a container that runs linters with these names: a linter is announced in front of the line that it is found
on, and not twice in a row. -/
structure Chatter (names : List String) (heard : List Heard) : Prop where
  detected : ∀ x ∈ heard, ∀ tool, x.tool = some tool → (ToolMatcher.ofNames names).detect x.line = some tool
  changing : (announced heard).IsChain (· ≠ ·)

/-- The events of a call up to the state at the end: it prepares, it runs, and this much is heard. -/
def opening (id : String) (heard : List Heard) : List ExecutionEvent :=
  .stateChanged id .preparing :: .stateChanged id .running :: heard.flatMap (Heard.events id)

/-- What a call for linters with these names may tell the subscribers, with the last state it tells. -/
inductive Block (id : String) (names : List String) : Option ExecutionState → List ExecutionEvent → Prop where
  | silent : Block id names none []
  | cancelled : Block id names (some .cancelled) [.stateChanged id .cancelled]
  | notStarted {state : ExecutionState} (hstate : state = .failed ∨ state = .cancelled) :
      Block id names (some state) [.stateChanged id .preparing, .stateChanged id state]
  | ran {state : ExecutionState} {heard : List Heard} (hheard : Chatter names heard)
      (hstate : state = .completed ∨ state = .failed ∨ state = .timedOut ∨ state = .cancelled) :
      Block id names (some state) (opening id heard ++ [.stateChanged id state])

/-- The last state that subscribers are told about a call with an outcome. They are told nothing at all if the engine was
not available. -/
def RunOutcome.lastState? : RunOutcome → Option ExecutionState
  | .error (.unavailable _) => none
  | outcome => some outcome.state

/-- Outcomes that a call can only have once the engine was found to be available. -/
def RunOutcome.PastCheck (outcome : RunOutcome) : Prop :=
  outcome ≠ .error .busy ∧ ∀ engine, outcome ≠ .error (.unavailable engine)

/-! ## §2 — facts about the language

How a block ends, and what may be added to it. -/

/-- The state at the end of an execution is one of the four at which executions end. -/
theorem RunOutcome.state_cases (outcome : RunOutcome) :
    outcome.state = .completed ∨ outcome.state = .failed ∨ outcome.state = .timedOut ∨ outcome.state = .cancelled := by
  cases outcome with
  | ok captured => exact .inl rfl
  | error fault => cases fault <;> simp [RunOutcome.state]

/-- Past the check, the last state is the one of the outcome. -/
theorem RunOutcome.lastState?_of_pastCheck {outcome : RunOutcome} (h : outcome.PastCheck) :
    outcome.lastState? = some outcome.state := by
  unfold RunOutcome.lastState?
  split
  · exact absurd rfl (h.2 _)
  · rfl

/-- Nothing is told about a call exactly when the engine was not available. -/
theorem RunOutcome.lastState?_eq_none_iff {outcome : RunOutcome} :
    outcome.lastState? = none ↔ ∃ engine, outcome = .error (.unavailable engine) := by
  unfold RunOutcome.lastState?
  split
  · exact ⟨fun _ => ⟨_, rfl⟩, fun _ => rfl⟩
  · rename_i hother
    refine ⟨nofun, ?_⟩
    rintro ⟨engine, rfl⟩
    exact absurd rfl (hother engine)

/-- The last event of a block tells the last state. -/
theorem Block.getLast?_eq {id : String} {names : List String} {last : Option ExecutionState} {es : List ExecutionEvent}
    (h : Block id names last es) : es.getLast? = last.map (ExecutionEvent.stateChanged id) := by
  cases h with
  | silent => rfl
  | cancelled => rfl
  | notStarted => rfl
  | ran => exact List.getLast?_concat

/-- One more line that was heard. -/
theorem opening_append (id : String) (heard : List Heard) (x : Heard) :
    opening id heard ++ x.events id = opening id (heard ++ [x]) := by
  unfold opening
  rw [List.flatMap_append, List.flatMap_singleton]
  rfl

/-- The linter that was announced last, after one more line. -/
theorem getLast?_announced (heard : List Heard) (x : Heard) :
    (announced (heard ++ [x])).getLast? = x.tool.or (announced heard).getLast? := by
  unfold announced
  rw [List.filterMap_append, List.getLast?_append]
  cases hx : x.tool with
  | none => rw [List.filterMap_cons_none hx, List.filterMap_nil, List.getLast?_nil]
  | some tool => rw [List.filterMap_cons_some hx, List.filterMap_nil, List.getLast?_singleton]

/-- **Chatter goes on with a line** whose announcement, if there is one, is of the linter found on it and of another linter
than the last one. -/
theorem Chatter.append {names : List String} {heard : List Heard} {x : Heard} (h : Chatter names heard)
    (hdetect : ∀ tool, x.tool = some tool → (ToolMatcher.ofNames names).detect x.line = some tool)
    (hnew : ∀ tool, x.tool = some tool → (announced heard).getLast? ≠ some tool) : Chatter names (heard ++ [x]) := by
  refine ⟨?_, ?_⟩
  · intro y hy
    rcases List.mem_append.mp hy with hy | hy
    · exact h.detected y hy
    · rw [List.mem_singleton.mp hy]
      exact hdetect
  · have hparts : announced (heard ++ [x]) = announced heard ++ x.tool.toList := by
      unfold announced
      rw [List.filterMap_append]
      cases hx : x.tool <;> simp [hx]
    rw [hparts]
    refine h.changing.append ?_ ?_
    · cases x.tool with
      | none => exact List.isChain_nil
      | some tool => exact List.isChain_singleton tool
    · intro before hbefore after hafter hsame
      have htool : x.tool = some after := by
        rw [Option.mem_def] at hafter
        rw [← hafter]
        cases x.tool <;> rfl
      exact hnew after htool (hsame ▸ hbefore)

/-! ## §3 — what a call has told, by stage

An open block for each stage, and that every step continues it. -/

/-- What a call for linters with these names has told by the time it comes to a stage. A call that has not come in has no
such list, and neither has one that was turned away. -/
def Told (id : String) (names : List String) (es : List ExecutionEvent) : Stage → Prop
  | .arrived => False
  | .admitted | .checking | .available => es = []
  | .preparing | .prepared _ | .starting _ => es = [.stateChanged id .preparing]
  | .running _ w =>
    ∃ heard, es = opening id heard ∧ Chatter names heard ∧ w.matcher = .ofNames names ∧
      w.tool = (announced heard).getLast?
  | .stopping _ why | .waiting _ why | .killing _ why =>
    ∃ heard, es = opening id heard ∧ Chatter names heard ∧ RunOutcome.PastCheck (.error why)
  | .ended outcome | .reporting outcome =>
    outcome.PastCheck ∧ Block id names (some outcome.state) (es ++ [.stateChanged id outcome.state])
  | .leaving outcome | .deaf outcome | .released outcome | .returned outcome =>
    outcome ≠ .error .busy ∧ Block id names outcome.lastState? es

variable {id : String} {names : List String} {es : List ExecutionEvent} {w : Watch}

/-- A linter that a line announces is found on it, and is not the one that the output was about last. -/
theorem newTool?_eq_some {line tool : String} (h : w.newTool? line = some tool) :
    w.matcher.detect line = some tool ∧ w.tool ≠ some tool := by
  unfold Watch.newTool? at h
  cases hd : w.matcher.detect line with
  | none =>
    rw [hd] at h
    cases h
  | some found =>
    rw [hd] at h
    dsimp only at h
    by_cases hw : w.tool = some found
    · rw [if_pos hw] at h
      cases h
    · rw [if_neg hw] at h
      cases h
      exact ⟨rfl, hw⟩

/-- A watch after one more line. -/
theorem add_matcher_tool (stream : OutputStream) (line : String) :
    (w.add stream line).matcher = w.matcher ∧ (w.add stream line).tool = (w.newTool? line).or w.tool := by
  cases stream <;> cases hnew : w.newTool? line <;> simp [Watch.add, hnew]

/-- **A line of output** is one more thing that was heard. -/
theorem told_line {k : Container} {stream : OutputStream} {line : String} (h : Told id names es (.running k w)) :
    Told id names (es ++ w.eventsOf id stream line) (.running k (w.add stream line)) := by
  obtain ⟨heard, rfl, hchatter, hmatcher, htool⟩ := h
  obtain ⟨hmatcher', htool'⟩ := add_matcher_tool (w := w) stream line
  refine ⟨heard ++ [⟨w.newTool? line, stream, line⟩], ?_, ?_, ?_, ?_⟩
  · exact opening_append id heard ⟨w.newTool? line, stream, line⟩
  · refine hchatter.append ?_ ?_
    · intro tool hnew
      rw [← hmatcher]
      exact (newTool?_eq_some hnew).1
    · intro tool hnew
      rw [← htool]
      exact (newTool?_eq_some hnew).2
  · rw [hmatcher', hmatcher]
  · rw [htool', getLast?_announced, htool]

/-- A container that ran, and whose call has an outcome. -/
theorem told_ended {heard : List Heard} {outcome : RunOutcome} (hchatter : Chatter names heard)
    (hpast : outcome.PastCheck) : Told id names (opening id heard) (.ended outcome) :=
  ⟨hpast, .ran hchatter outcome.state_cases⟩

/-- A watch that is over ends past the check. -/
theorem pastCheck_outcome (w : Watch) (code : ExitCode) : RunOutcome.PastCheck (w.outcome code) := by
  unfold Watch.outcome
  split
  · exact ⟨nofun, nofun⟩
  · exact ⟨nofun, nofun⟩

/-- Preparing a repository fails in one way only. -/
theorem prepare_error {r r' : Runner} {q : RunRequest} {fault : ExecutionFault}
    (h : r.prepare id q = (r', .error fault)) : ∃ path cause, fault = .prepare path cause := by
  rcases prepare_cases r id q with ⟨cause, -, hran⟩ | ⟨place, node, files, written, -, -, hran⟩
  · rw [h] at hran
    cases hran
    exact ⟨_, cause, rfl⟩
  · rw [h] at hran
    cases written with
    | error cause =>
      cases hran
      exact ⟨_, cause, rfl⟩
    | ok _ => cases hran

/-- **The step lemma.** A transition of a call that has come in emits some events, and what the call has told with these
behind it is what the next stage asks for. -/
theorem told_transition {q : RunRequest} {n : Nat} {r r' : Runner} {st st' : Stage} {m : Move}
    (ht : Transition id q n r st m r' st') (h : Told id q.configuration.linters.enabledNames es st) :
    ∃ more, r'.bus = r.bus.emitAll more ∧ Told id q.configuration.linters.enabledNames (es ++ more) st' := by
  have quiet : ∀ {r₁ : Runner} {st₁}, r₁.bus = r.bus → Told id q.configuration.linters.enabledNames es st₁ →
      ∃ more, r₁.bus = r.bus.emitAll more ∧ Told id q.configuration.linters.enabledNames (es ++ more) st₁ := by
    intro r₁ st₁ hbus htold
    refine ⟨[], hbus, ?_⟩
    rwa [List.append_nil]
  cases ht
  -- on the way in: nothing is told before `preparing`, and nothing else before `running`
  case turnedAway | letIn => exact h.elim
  case openSlot | answerYes | proceed => exact quiet rfl h
  case answerNo =>
    obtain rfl : es = [] := h
    exact quiet rfl ⟨nofun, .silent⟩
  case cancelCheck =>
    obtain rfl : es = [] := h
    exact ⟨[.stateChanged id .cancelled], rfl, nofun, .cancelled⟩
  case beginPreparing =>
    obtain rfl : es = [] := h
    exact ⟨[.stateChanged id .preparing], rfl, rfl⟩
  case prepare spec hprepare =>
    obtain ⟨files, rfl⟩ := prepare_frame hprepare
    exact quiet rfl h
  case prepareFails fault hprepare =>
    obtain ⟨files, rfl⟩ := prepare_frame hprepare
    obtain ⟨path, cause, rfl⟩ := prepare_error hprepare
    obtain rfl : es = _ := h
    exact quiet rfl ⟨⟨nofun, nofun⟩, .notStarted (.inl rfl)⟩
  case cancelPrepared =>
    obtain rfl : es = _ := h
    exact quiet rfl ⟨⟨nofun, nofun⟩, .notStarted (.inr rfl)⟩
  case startFails =>
    obtain rfl : es = _ := h
    exact quiet rfl ⟨⟨nofun, nofun⟩, .notStarted (.inl rfl)⟩
  case start =>
    obtain rfl : es = _ := h
    exact ⟨[.stateChanged id .running], rfl, [], rfl, ⟨nofun, List.isChain_nil⟩, rfl, rfl⟩
  -- with a container: lines are told, and nothing else
  case line => exact ⟨_, rfl, told_line h⟩
  case exit | pipesClose | noticeExit => exact quiet rfl h
  case pipesCloseLast | noticeExitLast =>
    obtain ⟨heard, rfl, hchatter, -, -⟩ := h
    exact quiet rfl (told_ended hchatter (pastCheck_outcome _ _))
  case waitFails =>
    obtain ⟨heard, rfl, hchatter, -, -⟩ := h
    exact quiet rfl (told_ended hchatter ⟨nofun, nofun⟩)
  case timeUp | noticeCancel =>
    obtain ⟨heard, rfl, hchatter, -, -⟩ := h
    exact quiet rfl ⟨heard, rfl, hchatter, nofun, nofun⟩
  -- stopping the container is silent
  case exitStopping | stop | exitWaiting | graceOver => exact quiet rfl h
  case stopped | kill =>
    obtain ⟨heard, rfl, hchatter, hwhy⟩ := h
    exact quiet rfl (told_ended hchatter hwhy)
  -- on the way out: the state at the end is told once
  case clearSlot => exact quiet rfl h
  case report outcome =>
    obtain ⟨hpast, hblock⟩ := h
    refine ⟨[.stateChanged id outcome.state], rfl, hpast.1, ?_⟩
    rw [RunOutcome.lastState?_of_pastCheck hpast]
    exact hblock
  case stopListening | release | ret => exact quiet rfl h

end LintPlan
