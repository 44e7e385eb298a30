import LintPlan.Proofs.Execution.EventBlocks
import LintPlan.Proofs.Execution.Renaming
import LintPlan.Proofs.Execution.Verdicts

/-!
# Starting afresh

Once no call is in, a runner is as good as new: whatever happened before, what happens next is what would happen to a runner
that nobody has called, with the same setup and the files as they are now. The two histories differ in the numbers of calls
and in identifiers only, so this is a simulation along a renaming.

* **`Continues`** — what happened to a session since some time has happened to a fresh session.
* **`act_continues`** — the step lemma; **`run_continues`** follows by induction.
* **`asked_since`** — a call is cancelled only by a request that was made while it was in.
* **`run_startsAfresh`** — all of this for every history after which no call is in.
-/

namespace LintPlan

/-! ## §1 — the fresh session

Two sessions side by side: one goes on, the other starts afresh with the same setup and files. Numbers and ids are renamed. -/

/-- A runner that nobody has called, with the setup and the files of another one; somebody listens to it. -/
def Runner.afresh (r : Runner) : Runner := { Runner.idle r.setup r.files with bus := EventBus.empty.subscribe }

/-- Calls that are made when others were made already, under other identifiers. -/
def laterCalls (made : Nat) (ids : String → String) : Renaming where
  number k := made + k
  id := ids
  container name := Runner.containerName (ids (String.ofList (name.toList.drop "lintscope-".length)))
  container_name i := by
    have hdrop : ("lintscope-" ++ i).toList.drop "lintscope-".length = i.toList := by
      rw [String.toList_append]
      exact List.drop_left
    show Runner.containerName (ids (String.ofList (("lintscope-" ++ i).toList.drop "lintscope-".length))) = _
    rw [hdrop, String.ofList_toList]

/-- What led to the session `t` from a fresh runner has led to the session `s'` from the session `s`, with later numbers and
other identifiers. -/
structure Continues (ids : String → String) (s t s' : Session) : Prop where
  calls : s'.calls = s.calls ++ t.calls.map (Call.renamed (laterCalls s.calls.length ids))
  runner : Runner.InStep (laterCalls s.calls.length ids) s.runner.afresh s.runner t.runner s'.runner

variable {ids : String → String} {s t s' : Session}

theorem apart_laterCalls (r : Runner) (made n : Nat) : r.Apart (laterCalls made ids) n := by
  intro slot _
  show made + slot.owner = made + n ↔ slot.owner = n
  omega

theorem Continues.getElem? (h : Continues ids s t s') (k : Nat) :
    s'.calls[s.calls.length + k]? = t.calls[k]?.map (Call.renamed (laterCalls s.calls.length ids)) := by
  rw [h.calls, List.getElem?_append_right (Nat.le_add_right _ _), Nat.add_sub_cancel_left, List.getElem?_map]

/-- **One action.** -/
theorem act_continues (h : Continues ids s t s') (a : Action) :
    Option.Rel (Continues ids s) (t.act a) (s'.act (a.renamed (laterCalls s.calls.length ids))) := by
  cases a with
  | call id q =>
    refine .some ⟨?_, h.runner⟩
    show s'.calls ++ [Call.mk (ids id) q .arrived] = s.calls ++ (t.calls ++ [Call.mk id q .arrived]).map _
    rw [h.calls, List.map_append, List.append_assoc]
    rfl
  | cancel => exact .some ⟨h.calls, h.runner.cancel⟩
  | move k m =>
    show Option.Rel _ (t.move k m) (s'.move (s.calls.length + k) m)
    unfold Session.move
    rw [h.getElem? k]
    cases hc : t.calls[k]? with
    | none => exact .none
    | some c =>
      -- the call makes the same step in both, under its other number
      have hrel := step_inStep (c := c) (m := m) h.runner (apart_laterCalls t.runner s.calls.length k)
      change StepInStep _ _ _ _ (Call.step _ (s.calls.length + k) _ _) at hrel
      dsimp only [Option.map_some]
      generalize c.step k t.runner m = x at hrel
      generalize (c.renamed (laterCalls s.calls.length ids)).step (s.calls.length + k) s'.runner m = y at hrel
      cases hrel with
      | none => exact .none
      | some hboth =>
        obtain ⟨hrunner, hstage⟩ := hboth
        refine .some ⟨?_, hrunner⟩
        dsimp only
        rw [h.calls, List.set_append_right _ _ (Nat.le_add_right _ _), Nat.add_sub_cancel_left, List.map_set, hstage]
        rfl

/-- **Every history.** -/
theorem run_continues (next : List Action) (h : Continues ids s t s') :
    Option.Rel (Continues ids s) (t.run next) (s'.run (next.map (Action.renamed (laterCalls s.calls.length ids)))) := by
  induction next generalizing t s' with
  | nil => exact .some h
  | cons a rest ih =>
    have hrel := act_continues h a
    show Option.Rel _ ((t.act a).bind (Session.run · rest))
      ((s'.act (a.renamed _)).bind (Session.run · (rest.map (Action.renamed _))))
    generalize t.act a = x at hrel
    generalize s'.act (a.renamed (laterCalls s.calls.length ids)) = y at hrel
    cases hrel with
    | none => exact .none
    | some hnext => exact ih hnext

/-! ## §2 — what shows

What can be seen of both is the same. -/

/-- What shows of a session `s'` that went on from `s` is what shows of the session `t` that went on from a fresh start, with
later numbers and other identifiers. -/
structure LikeAfresh (ids : String → String) (s t s' : Session) : Prop where
  /-- The calls that were made since have returned the same. -/
  results : ∀ k, s'.result? (s.calls.length + k) = t.result? k
  /-- Everybody who listened has got the same events since. -/
  events : ∀ {number : Nat} {listener : Subscriber}, s.runner.bus.listener? number = some listener →
    s'.runner.bus.pending number =
      s.runner.bus.pending number ++
        (t.runner.bus.pending 0).map (ExecutionEvent.renamed (laterCalls s.calls.length ids))
  /-- The same was done to containers since. -/
  acts : s'.runner.acts = s.runner.acts ++ t.runner.acts.map (ContainerAct.renamed (laterCalls s.calls.length ids))
  files : s'.runner.files = t.runner.files
  /-- The state is the same, unless no execution has come to a state since. -/
  state : s'.runner.state = t.runner.state ∨ t.runner.state = .idle ∧ s'.runner.state = s.runner.state
  busy : s'.runner.busy = t.runner.busy
  acceptsCancel : s'.runner.acceptsCancel = t.runner.acceptsCancel

theorem result?_renamed (φ : Renaming) (st : Stage) : (st.renamed φ).result? = st.result? := by cases st <;> rfl

/-- **Sessions that went on alike look alike.** -/
theorem Continues.likeAfresh (h : Continues ids s t s') : LikeAfresh ids s t s' := by
  obtain ⟨es, hes, hes'⟩ := h.runner.bus
  obtain ⟨acts, hacts, hacts'⟩ := h.runner.acts
  obtain rfl : t.runner.acts = acts := hacts
  refine ⟨?_, ?_, hacts', h.runner.files, h.runner.state, h.runner.busy, h.runner.acceptsCancel⟩
  · intro k
    unfold Session.result?
    rw [h.getElem? k]
    cases t.calls[k]? with
    | none => rfl
    | some c => exact result?_renamed _ c.stage
  · intro number listener hlistens
    have hfresh : s.runner.afresh.bus.listener? 0 = some ⟨0, true, []⟩ := rfl
    rw [hes', EventBus.pending_emitAll hlistens, hes, EventBus.pending_emitAll hfresh]
    rfl

/-! ## §3 — requests of earlier calls

No request from before counts for a later call. -/

variable {r : Runner} {actions next : List Action} {n : Nat}

/-- **A call is cancelled only by a request that was accepted while it was in.** A request for an earlier call never cancels
a later one. -/
theorem asked_since (hbusy : r.busy = false) (hslot : r.slot = none) (hrun : (Session.start r).run actions = some s)
    (hnext : s.run next = some s') (hlater : ∀ c, s.calls[n]? = some c → c.stage = .arrived)
    (hresult : s'.result? n = some (.error .cancelled)) :
    ∃ mid more u, next = mid ++ .cancel :: more ∧ s.run mid = some u ∧ u.Accepts n := by
  have hboth : (Session.start r).run (actions ++ next) = some s' := by
    rw [run_append, hrun]
    exact hnext
  obtain ⟨c, hc, hreturned⟩ := stage_of_result? hresult
  have hnoticed : Noticed r (actions ++ next) n := (noticed_run hboth).mpr ⟨c, hc, by rw [hreturned]; rfl⟩
  obtain ⟨before, u, u', hmoment, haccepts⟩ := noticed_asked hbusy hslot hnoticed
  -- the request was made in the earlier history, or after it
  by_cases hearlier : before ++ [.cancel] <+: actions
  · obtain ⟨rest, rfl⟩ := hearlier
    rw [run_append, run_append, hmoment.reached] at hrun
    have hrest : u.run ([.cancel] ++ rest) = some s := by
      rw [run_append]
      exact hrun
    -- the call was in at the time of the request, so it cannot have been still to begin afterwards
    obtain ⟨-, d, hd, hlive⟩ := haccepts
    have hpast : d.stage.PastDoor := by
      refine (quiet_or_pastDoor_run hmoment.reached hd).resolve_left fun hquiet => ?_
      rw [hquiet.isLive_eq] at hlive
      cases hlive
    obtain ⟨x, hx, hle⟩ := reach_run hrest hd
    rw [hlater x hx] at hle
    exact absurd hpast (Nat.not_lt.mpr hle)
  · have hsince : actions <+: before := by
      rcases List.prefix_or_prefix_of_prefix hmoment.part (List.prefix_append actions next) with hpart | hpart
      · exact absurd hpart hearlier
      · refine (List.prefix_concat_iff.mp hpart).resolve_left fun heq => ?_
        exact hearlier (heq ▸ List.prefix_refl _)
    obtain ⟨mid, rfl⟩ := hsince
    obtain ⟨more, hmore⟩ := hmoment.part
    rw [List.append_assoc, List.append_assoc, List.append_cancel_left_eq] at hmore
    have hmid := hmoment.reached
    rw [run_append, hrun] at hmid
    refine ⟨mid, more, u, ?_, hmid, haccepts⟩
    rw [← hmore]
    rfl

/-! ## §4 — idle runners

Once all calls have returned a runner is in such a state. -/

/-- A session after which no call is in goes on as if nothing had happened before. -/
structure StartsAfresh (s : Session) : Prop where
  /-- The flag is down. -/
  free : s.runner.busy = false
  /-- Nobody can be cancelled. -/
  deaf : s.runner.acceptsCancel = false
  /-- A request to cancel has no effect. -/
  unmoved : s.act .cancel = some s
  /-- Whatever is done next can be done after a fresh start, and the other way round, and what shows is the same. -/
  afresh : ∀ (ids : String → String) (next : List Action),
    Option.Rel (LikeAfresh ids s) ((Session.start s.runner.afresh).run next)
      (s.run (next.map (Action.renamed (laterCalls s.calls.length ids))))
  /-- A call that has not returned yet is cancelled only by a request that is accepted while it is in. -/
  asked : ∀ {next : List Action} {s' : Session} {n : Nat}, s.run next = some s' → s.result? n = none →
    s'.result? n = some (.error .cancelled) →
      ∃ mid more u, next = mid ++ .cancel :: more ∧ s.run mid = some u ∧ u.Accepts n

/-- A call that is not in and has not returned has not begun. -/
theorem arrived_of_result? {c : Call} (hout : c.stage.isLive = false) (hresult : c.stage.result? = none) :
    c.stage = .arrived := by
  cases hs : c.stage <;> rw [hs] at hout hresult
  case returned => cases hresult
  all_goals cases hout

/-- **Nothing leaks into the next run.** After any history of calls and requests to cancel, once no call is in: the flag is
down, a request to cancel is not accepted and changes nothing, and the next calls fare as they would after a fresh start. -/
theorem run_startsAfresh (setup : RunnerSetup) (files : FileTree) (bus : EventBus) (actions : List Action) (s : Session)
    (hrun : (Session.start { Runner.idle setup files with bus := bus }).run actions = some s)
    (hout : ∀ c ∈ s.calls, c.stage.isLive = false) : StartsAfresh s := by
  obtain ⟨flight, hflight⟩ := flight_run rfl hrun
  have hfree : s.runner.busy = false := by
    rw [hflight.busy, Option.isSome_eq_false_iff, Option.isNone_iff_eq_none, Option.eq_none_iff_forall_ne_some]
    intro n hn
    have hc := List.getElem?_eq_getElem (hflight.known hn)
    have hlive := (hflight.live hc).mpr hn
    rw [hout _ (List.mem_of_getElem? hc)] at hlive
    cases hlive
  have hslot : s.runner.slot = none := (slotted_run rfl rfl hrun).empty hfree
  have hdeaf : s.runner.acceptsCancel = false := by rw [Runner.acceptsCancel, hslot]
  refine ⟨hfree, hdeaf, ?_, ?_, ?_⟩
  · show some { s with runner := s.runner.cancel } = some s
    rw [Runner.cancel, hdeaf]
    rfl
  · intro ids next
    -- nothing has happened yet: the renaming starts with no calls, no events and no acts
    have hstart : Continues ids s (Session.start s.runner.afresh) s := by
      refine ⟨(List.append_nil _).symm, rfl, rfl, hfree, by rw [hslot]; rfl, .inr ⟨rfl, rfl⟩, ⟨[], rfl, rfl⟩, [], rfl, ?_⟩
      exact (List.append_nil _).symm
    have hrel := run_continues next hstart
    generalize (Session.start s.runner.afresh).run next = x at hrel
    generalize s.run (next.map (Action.renamed (laterCalls s.calls.length ids))) = y at hrel
    cases hrel with
    | none => exact .none
    | some h => exact .some h.likeAfresh
  · intro next s' n hnext hopen hresult
    refine asked_since rfl rfl hrun hnext ?_ hresult
    intro c hc
    have hopen' : c.stage.result? = none := by
      rw [Session.result?, hc] at hopen
      exact hopen
    exact arrived_of_result? (hout c (List.mem_of_getElem? hc)) hopen'

/-- After overlapping calls, one of which was turned away. -/
theorem run_startsAfresh_overlapping :
    ∃ s, (Session.start listenedTo).run overlappingCalls = some s ∧ (∀ c ∈ s.calls, c.stage.isLive = false) ∧
      StartsAfresh s := by
  have hover : (((Session.start listenedTo).run overlappingCalls).any fun s =>
      s.calls.all fun c => !c.stage.isLive) = true := by decide +kernel
  obtain ⟨s, hrun, hall⟩ := (Option.any_eq_true _ _).mp hover
  have hout : ∀ c ∈ s.calls, c.stage.isLive = false := by
    intro c hc
    simpa using List.all_eq_true.mp hall c hc
  exact ⟨s, hrun, hout, run_startsAfresh _ _ _ overlappingCalls s hrun hout⟩

end LintPlan
