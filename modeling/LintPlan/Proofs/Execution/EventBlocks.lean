import LintPlan.Proofs.Execution.EventGrammar
import LintPlan.Proofs.Execution.Sessions

/-!
# The events of a session, block by block

However calls overlap, the events that a runner emits are the blocks of the calls that it lets in, one behind the other.
A record lists these calls with what each has told so far; the call that is in, if there is one, is the last of it, which
is why blocks do not mix.

* **`recorded_letIn`**, **`recorded_live`** — a call that is let in goes to the end of the record, and what the call that is
  in tells goes to the end as well.
* **`recorded_act`** — every action keeps a record.
* **`run_blocks`** — once all calls have returned, the record splits the events into blocks of the grammar, whose last
  states are those of the outcomes.
-/

namespace LintPlan

/-! ## §1 — records

A record keeps what each call told the bus. It is not part of a session; it is shown to exist, action by action. -/

/-- Has a call been let in? -/
def Stage.isAdmitted : Stage → Bool
  | .arrived => false
  | .returned (.error .busy) => false
  | _ => true

/-- What the calls that were let in have told since the bus was like this. -/
structure Recorded (bus : EventBus) (s : Session) (record : List (Nat × List ExecutionEvent)) : Prop where
  emitted : s.runner.bus = bus.emitAll (record.flatMap Prod.snd)
  nodup : (record.map Prod.fst).Nodup
  told : ∀ {n es}, (n, es) ∈ record →
    ∃ c, s.calls[n]? = some c ∧ Told c.id c.request.configuration.linters.enabledNames es c.stage
  admitted : ∀ {n c}, s.calls[n]? = some c → c.stage.isAdmitted = true → n ∈ record.map Prod.fst
  last : ∀ {n c}, s.calls[n]? = some c → c.stage.isLive = true → ∃ earlier es, record = earlier ++ [(n, es)]

/-! ## §2 — what actions do to a record

Only the call that is in can tell anything, and it is the last of the record. -/

variable {bus : EventBus} {s s' : Session} {record : List (Nat × List ExecutionEvent)} {n : Nat} {c : Call}

/-- **A call is made.** It has not come in, so it is not in the record. -/
theorem recorded_makeCall (h : Recorded bus s record) (id : String) (q : RunRequest) :
    Recorded bus (s.makeCall id q) record := by
  refine ⟨h.emitted, h.nodup, ?_, ?_, ?_⟩
  · intro k es hk
    obtain ⟨x, hx, htold⟩ := h.told hk
    exact ⟨x, getElem?_makeCall.mpr (.inl hx), htold⟩
  · intro k x hx hin
    rcases getElem?_makeCall.mp hx with hx | ⟨-, rfl⟩
    · exact h.admitted hx hin
    · cases hin
  · intro k x hx hlive
    rcases getElem?_makeCall.mp hx with hx | ⟨-, rfl⟩
    · exact h.last hx hlive
    · cases hlive

/-- Numbers of calls in the record are not the number of one that has just arrived. -/
theorem not_mem_of_arrived (h : Recorded bus s record) (hc : s.calls[n]? = some c) (harrived : c.stage = .arrived) :
    n ∉ record.map Prod.fst := by
  intro hn
  obtain ⟨⟨k, es⟩, hk, rfl⟩ := List.mem_map.mp hn
  obtain ⟨x, hx, htold⟩ := h.told hk
  obtain rfl : c = x := Option.some.inj (hc.symm.trans hx)
  rw [harrived] at htold
  exact htold

/-- What was told by calls other than one that comes to another stage. -/
theorem told_other {st : Stage} {r : Runner} (h : Recorded bus s record) (hc : s.calls[n]? = some c) {k : Nat}
    {es : List ExecutionEvent} (hk : (k, es) ∈ record) (hne : k ≠ n) :
    ∃ x, (Session.mk r (s.calls.set n { c with stage := st })).calls[k]? = some x ∧
      Told x.id x.request.configuration.linters.enabledNames es x.stage := by
  obtain ⟨x, hx, htold⟩ := h.told hk
  exact ⟨x, (getElem?_set_call hc).mpr (.inr ⟨hne, hx⟩), htold⟩

/-- **A call is turned away.** Nothing is told. -/
theorem recorded_turnedAway (h : Recorded bus s record) (hc : s.calls[n]? = some c) (harrived : c.stage = .arrived) :
    Recorded bus ⟨s.runner, s.calls.set n { c with stage := .returned (.error .busy) }⟩ record := by
  refine ⟨h.emitted, h.nodup, ?_, ?_, ?_⟩
  · intro k es hk
    refine told_other h hc hk ?_
    rintro rfl
    exact not_mem_of_arrived h hc harrived (List.mem_map_of_mem hk)
  · intro k x hx hin
    rcases (getElem?_set_call hc).mp hx with ⟨rfl, rfl⟩ | ⟨-, hx⟩
    · cases hin
    · exact h.admitted hx hin
  · intro k x hx hlive
    rcases (getElem?_set_call hc).mp hx with ⟨rfl, rfl⟩ | ⟨-, hx⟩
    · cases hlive
    · exact h.last hx hlive

/-- **A call is let in.** No other call is in, and the record goes on with an empty list for this one. -/
theorem recorded_letIn {flight : Option Nat} (hflight : Flight s flight) (h : Recorded bus s record)
    (hc : s.calls[n]? = some c) (harrived : c.stage = .arrived) (hidle : s.runner.busy = false) :
    Recorded bus ⟨{ s.runner with busy := true }, s.calls.set n { c with stage := .admitted }⟩
      (record ++ [(n, [])]) := by
  have hnew := not_mem_of_arrived h hc harrived
  refine ⟨?_, ?_, ?_, ?_, ?_⟩
  · rw [List.flatMap_append, List.flatMap_singleton, List.append_nil]
    exact h.emitted
  · rw [List.map_append, List.nodup_append]
    refine ⟨h.nodup, List.nodup_cons.mpr ⟨List.not_mem_nil, List.nodup_nil⟩, ?_⟩
    intro k hk l hl hkl
    obtain rfl : l = n := List.mem_singleton.mp hl
    exact hnew (hkl ▸ hk)
  · intro k es hk
    rcases List.mem_append.mp hk with hk | hk
    · have hknown : k ∈ record.map Prod.fst := List.mem_map_of_mem hk
      refine told_other h hc hk ?_
      rintro rfl
      exact hnew hknown
    · cases List.mem_singleton.mp hk
      exact ⟨_, (getElem?_set_call hc).mpr (.inl ⟨rfl, rfl⟩), rfl⟩
  · intro k x hx hin
    rw [List.map_append, List.mem_append]
    rcases (getElem?_set_call hc).mp hx with ⟨rfl, rfl⟩ | ⟨-, hx⟩
    · exact .inr (List.mem_singleton_self _)
    · exact .inl (h.admitted hx hin)
  · intro k x hx hlive
    rcases (getElem?_set_call hc).mp hx with ⟨rfl, rfl⟩ | ⟨-, hx⟩
    · exact ⟨record, [], rfl⟩
    · -- the flag was down, so no other call can be in
      have hbusy := hflight.busy
      rw [(hflight.live hx).mp hlive, hidle] at hbusy
      cases hbusy

/-- **The call that is in takes a step.** What it tells goes to the end of the record. -/
theorem recorded_live {m : Move} {r' : Runner} {st : Stage} {flight : Option Nat} (hflight : Flight s flight)
    (h : Recorded bus s record) (hc : s.calls[n]? = some c) (hlive : c.stage.isLive = true)
    (ht : Transition c.id c.request n s.runner c.stage m r' st) :
    ∃ record', Recorded bus ⟨r', s.calls.set n { c with stage := st }⟩ record' := by
  obtain ⟨earlier, es, rfl⟩ := h.last hc hlive
  -- no call is listed twice, so the others keep what they told
  have hearlier : ∀ {k fs}, (k, fs) ∈ earlier → k ≠ n := by
    rintro k fs hk rfl
    have hnodup := h.nodup
    rw [List.map_append, List.nodup_append] at hnodup
    exact hnodup.2.2 k (List.mem_map_of_mem hk) k (List.mem_singleton_self _) rfl
  obtain ⟨x, hx, htold⟩ := h.told (List.mem_append_right earlier (List.mem_singleton_self _))
  obtain rfl : c = x := Option.some.inj (hc.symm.trans hx)
  obtain ⟨more, hbus, htold'⟩ := told_transition ht htold
  have hnumbers : (earlier ++ [(n, es ++ more)]).map Prod.fst = (earlier ++ [(n, es)]).map Prod.fst := by
    rw [List.map_append, List.map_append]
    rfl
  refine ⟨earlier ++ [(n, es ++ more)], ?_, ?_, ?_, ?_, ?_⟩
  · rw [hbus, h.emitted, ← EventBus.emitAll_append]
    simp only [List.flatMap_append, List.flatMap_singleton, List.append_assoc]
  · rw [hnumbers]
    exact h.nodup
  · intro k fs hk
    rcases List.mem_append.mp hk with hk | hk
    · exact told_other h hc (List.mem_append_left _ hk) (hearlier hk)
    · cases List.mem_singleton.mp hk
      exact ⟨_, (getElem?_set_call hc).mpr (.inl ⟨rfl, rfl⟩), htold'⟩
  · intro k x hx hin
    rw [hnumbers]
    rcases (getElem?_set_call hc).mp hx with ⟨rfl, rfl⟩ | ⟨-, hx⟩
    · exact List.mem_map_of_mem (List.mem_append_right earlier (List.mem_singleton_self _))
    · exact h.admitted hx hin
  · intro k x hx hlive'
    rcases (getElem?_set_call hc).mp hx with ⟨rfl, -⟩ | ⟨hne, hx⟩
    · exact ⟨earlier, es ++ more, rfl⟩
    · -- two calls cannot be in at once
      have hother := (hflight.live hx).mp hlive'
      have hthis := (hflight.live hc).mp hlive
      exact absurd (Option.some.inj (hother.symm.trans hthis)) hne

/-- **Every action keeps a record.** -/
theorem recorded_act {a : Action} {flight : Option Nat} (hflight : Flight s flight) (h : Recorded bus s record)
    (hact : s.act a = some s') : ∃ record', Recorded bus s' record' := by
  rcases act_cases hact with ⟨id, q, -, rfl⟩ | ⟨-, rfl⟩ | ⟨n, c, m, r', st, -, hc, ht, rfl⟩
  · exact ⟨record, recorded_makeCall h id q⟩
  · obtain ⟨slot, hslot⟩ := cancel_frame s.runner
    rw [hslot]
    exact ⟨record, h.emitted, h.nodup, h.told, h.admitted, h.last⟩
  · by_cases harrived : c.stage = .arrived
    · rw [harrived] at ht
      cases ht with
      | turnedAway => exact ⟨record, recorded_turnedAway h hc harrived⟩
      | letIn hidle => exact ⟨record ++ [(n, [])], recorded_letIn hflight h hc harrived hidle⟩
    · exact recorded_live hflight h hc (ht.isLive harrived) ht

/-- **Every session has a record.** -/
theorem recorded_run {actions : List Action} {r : Runner} (hr : r.busy = false)
    (h : (Session.start r).run actions = some s) : ∃ record, Recorded r.bus s record := by
  have hboth : (∃ flight, Flight s flight) ∧ ∃ record, Recorded r.bus s record := by
    refine run_invariant (I := fun s => (∃ flight, Flight s flight) ∧ ∃ record, Recorded r.bus s record) ?_ h ?_
    · rintro s a s' ⟨⟨flight, hflight⟩, record, hrecord⟩ ha
      exact ⟨flight_act hflight ha, recorded_act hflight hrecord ha⟩
    · refine ⟨⟨none, flight_start hr⟩, [], rfl, List.nodup_nil, nofun, ?_, ?_⟩
      · intro n c hc
        cases hc
      · intro n c hc
        cases hc
  exact hboth.2

/-! ## §3 — sessions in which all calls have returned

At the end each entry of the record is a finished block. -/

/-- The events of a session in which all calls have returned, split into the blocks of the calls that were let in. -/
structure SplitInto (bus : EventBus) (s : Session) (blocks : List (Nat × List ExecutionEvent)) : Prop where
  /-- The blocks one behind the other are what the bus got. -/
  emitted : s.runner.bus = bus.emitAll (blocks.flatMap Prod.snd)
  /-- They are what everybody got who was listening from the start. -/
  delivered : ∀ number subscriber, bus.listener? number = some subscriber →
    s.runner.bus.pending number = bus.pending number ++ blocks.flatMap Prod.snd
  /-- No call has two blocks. -/
  once : (blocks.map Prod.fst).Nodup
  /-- A call has a block unless it was turned away. -/
  letIn : ∀ n outcome, s.result? n = some outcome → (n ∈ blocks.map Prod.fst ↔ outcome ≠ .error .busy)
  /-- A block keeps to the grammar and ends with the state of what the call has returned; it is empty exactly if the
  engine was not available. -/
  block : ∀ n es, (n, es) ∈ blocks → ∃ c outcome, s.calls[n]? = some c ∧ c.stage = .returned outcome ∧
    Block c.id c.request.configuration.linters.enabledNames outcome.lastState? es ∧
    es.getLast? = outcome.lastState?.map (ExecutionEvent.stateChanged c.id) ∧
    (es = [] ↔ ∃ engine, outcome = .error (.unavailable engine))

/-- A call that has returned was let in unless it was turned away. -/
theorem isAdmitted_returned {outcome : RunOutcome} (h : outcome ≠ .error .busy) :
    (Stage.returned outcome).isAdmitted = true := by
  cases outcome with
  | ok captured => rfl
  | error fault =>
    cases fault with
    | busy => exact absurd rfl h
    | _ => rfl

/-- The stage of a call that has a result. -/
theorem stage_of_result? {outcome : RunOutcome} (h : s.result? n = some outcome) :
    ∃ c, s.calls[n]? = some c ∧ c.stage = .returned outcome := by
  obtain ⟨c, hc, hresult⟩ := Option.bind_eq_some_iff.mp h
  refine ⟨c, hc, ?_⟩
  cases hs : c.stage <;> rw [hs] at hresult <;> cases hresult
  rfl

/-- **The events of a session split into blocks.** Calls may overlap in any way and be cancelled at any time: once all of
them have returned, the bus has got the blocks of the calls that were let in, one behind the other. -/
theorem run_blocks (setup : RunnerSetup) (files : FileTree) (bus : EventBus) (actions : List Action) (s : Session)
    (hrun : (Session.start { Runner.idle setup files with bus := bus }).run actions = some s)
    (hdone : ∀ c ∈ s.calls, ∃ outcome, c.stage = .returned outcome) :
    ∃ blocks, SplitInto bus s blocks := by
  obtain ⟨blocks, h⟩ := recorded_run (by rfl) hrun
  -- all calls have returned, so what they told is a block with their outcome
  have hreturned : ∀ {n es}, (n, es) ∈ blocks → ∃ c outcome, s.calls[n]? = some c ∧ c.stage = .returned outcome ∧
      outcome ≠ .error .busy ∧ Block c.id c.request.configuration.linters.enabledNames outcome.lastState? es := by
    intro n es hes
    obtain ⟨c, hc, htold⟩ := h.told hes
    obtain ⟨outcome, houtcome⟩ := hdone c (List.mem_of_getElem? hc)
    rw [houtcome] at htold
    exact ⟨c, outcome, hc, houtcome, htold⟩
  refine ⟨blocks, h.emitted, ?_, h.nodup, ?_, ?_⟩
  · intro number subscriber hlistens
    rw [h.emitted]
    exact EventBus.pending_emitAll hlistens _
  · intro n outcome hresult
    obtain ⟨c, hc, hstage⟩ := stage_of_result? hresult
    constructor
    · intro hn
      obtain ⟨⟨k, es⟩, hes, rfl⟩ := List.mem_map.mp hn
      obtain ⟨x, outcome', hx, hx', hne, -⟩ := hreturned hes
      obtain rfl : c = x := Option.some.inj (hc.symm.trans hx)
      rw [hstage] at hx'
      exact Stage.returned.inj hx' ▸ hne
    · intro hne
      refine h.admitted hc ?_
      rw [hstage]
      exact isAdmitted_returned hne
  · intro n es hes
    obtain ⟨c, outcome, hc, houtcome, -, hblock⟩ := hreturned hes
    refine ⟨c, outcome, hc, houtcome, hblock, hblock.getLast?_eq, ?_⟩
    rw [← RunOutcome.lastState?_eq_none_iff, ← List.getLast?_eq_none_iff, hblock.getLast?_eq]
    exact Option.map_eq_none_iff

/-- One call comes to a container whose output is about a linter; another call is made meanwhile, and a request to cancel
comes too late. -/
def overlappingCalls : List Action :=
  [.call "first" request, .call "second" request, .move 0 .goOn, .move 1 .goOn, .move 0 .goOn, .move 0 (.answer 1 true),
   .move 0 .goOn, .move 0 .goOn, .move 0 .goOn, .move 0 (.start none), .move 0 (.line .stdout "Linting ruff"),
   .move 0 (.exit (some 0)), .move 0 .noticeExit, .move 0 .pipesClose, .move 0 .goOn, .cancel, .move 0 .goOn,
   .move 0 .goOn, .move 0 .goOn, .move 0 .goOn]
where
  /-- A request with one linter for the root directory. -/
  request : RunRequest :=
    ⟨{ Configuration.standard with
        linters := ⟨[⟨"ruff", none, .quality, .warning, true, [], ["**/*"], []⟩], [], []⟩ }, "/"⟩

/-- A runner that somebody listens to and nobody has called. -/
def listenedTo : Runner :=
  { Runner.idle ⟨"docker", "image", false, []⟩ .empty with bus := EventBus.empty.subscribe }

/-- The blocks of overlapping calls. -/
theorem run_blocks_overlapping :
    ∃ s, (Session.start listenedTo).run overlappingCalls = some s ∧ (∀ c ∈ s.calls, ∃ outcome, c.stage = .returned outcome) ∧
      ∃ blocks, SplitInto EventBus.empty.subscribe s blocks := by
  have hreturn : (((Session.start listenedTo).run overlappingCalls).any fun s =>
      s.calls.all fun c => c.stage.result?.isSome) = true := by decide
  obtain ⟨s, hrun, hall⟩ := (Option.any_eq_true _ _).mp hreturn
  have hdone : ∀ c ∈ s.calls, ∃ outcome, c.stage = .returned outcome := by
    intro c hc
    have hsome := List.all_eq_true.mp hall c hc
    cases hs : c.stage <;> rw [hs] at hsome <;> cases hsome
    exact ⟨_, rfl⟩
  exact ⟨s, hrun, hdone, run_blocks _ _ _ overlappingCalls s hrun hdone⟩

end LintPlan
