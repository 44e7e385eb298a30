import LintPlan.Proofs.Execution.Verdicts

/-!
# Whether a container was started

A call looks for requests to cancel once more right before it starts its container. A request that is accepted before that
look holds the call back for good, and an outcome that is settled before it tells that there was no container.

* **`reach_of_started`** — a call that started its container has come that far, and never falls back.
* **`heldBack_run`** — a call that was asked in time is held back.
* **`not_started_of_askedInTime`** — so it does not start its container, and has not started it before either.
-/

namespace LintPlan

variable {r : Runner} {actions before : List Action} {s s' : Session} {a : Action} {n : Nat} {c : Call}

/-! ## §1 — what was started

A container is started by one move of one call, and by none before it. -/

/-- In a history, the call with this number started its container. -/
def Started (r : Runner) (actions : List Action) (n : Nat) : Prop :=
  ∃ before s s', Moment r actions before s (.move n (.start none)) s'

/-- **A call that starts its container** is at the stage for it, and comes to the next one. -/
theorem start_cases (h : s.act (.move n (.start none)) = some s') :
    ∃ c c' spec, s.calls[n]? = some c ∧ c.stage = .starting spec ∧ s'.calls[n]? = some c' ∧ c'.stage.reach = 7 ∧
      s'.runner = (s.runner.note (.started spec)).enter c.id .running := by
  obtain ⟨c, r', st, hc, ht, hr, hst⟩ := move_cases h
  generalize hs : c.stage = stage at ht
  cases ht with
  | start => exact ⟨c, _, _, hc, hs, hst, rfl, hr⟩

/-- **A call that started its container has come that far.** -/
theorem reach_of_started (hstarted : Started r actions n) (h : (Session.start r).run actions = some s) :
    ∃ c, s.calls[n]? = some c ∧ 7 ≤ c.stage.reach := by
  obtain ⟨before, t, t', hmoment⟩ := hstarted
  obtain ⟨-, c', -, -, -, hc', hreach, -⟩ := start_cases hmoment.act
  obtain ⟨rest, hrest⟩ := hmoment.rest h
  obtain ⟨x, hx, hle⟩ := reach_run hrest hc'
  exact ⟨x, hx, hreach.symm.le.trans hle⟩

/-! ## §2 — requests in time

A request that comes before the last check keeps the container from being started. -/

/-- Can a call be asked to cancel, and has it not looked for requests for the last time before the start? -/
def Stage.isUnchecked : Stage → Bool
  | .checking | .available | .preparing | .prepared _ => true
  | _ => false

/-- In a history, a request to cancel was accepted before the call with this number looked for requests for the last time
before the start. -/
def AskedInTime (r : Runner) (actions : List Action) (n : Nat) : Prop :=
  ∃ before s s' c, Moment r actions before s .cancel s' ∧ s.runner.acceptsCancel = true ∧ s.calls[n]? = some c ∧
    c.stage.isUnchecked = true

theorem isLive_of_isUnchecked {st : Stage} (h : st.isUnchecked = true) : st.isLive = true := by
  cases st <;> first | rfl | cases h

theorem reach_le_of_isUnchecked {st : Stage} (h : st.isUnchecked = true) : st.reach ≤ 5 := by
  cases st
  case checking | available | preparing | prepared => exact Nat.le_of_ble_eq_true rfl
  all_goals cases h

theorem AskedInTime.asked (h : AskedInTime r actions n) : Asked r actions n := by
  obtain ⟨before, s, s', c, hmoment, haccepts, hc, hunchecked⟩ := h
  exact ⟨before, s, s', hmoment, haccepts, c, hc, isLive_of_isUnchecked hunchecked⟩

/-- One more action is a request in time only if it is accepted before the last look. -/
theorem askedInTime_concat (hs : (Session.start r).run actions = some s) (ha : s.act a = some s') :
    AskedInTime r (actions ++ [a]) n ↔
      AskedInTime r actions n ∨
        a = .cancel ∧ s.runner.acceptsCancel = true ∧ ∃ c, s.calls[n]? = some c ∧ c.stage.isUnchecked = true := by
  constructor
  · rintro ⟨before, t, t', c, hmoment, haccepts, hc, hunchecked⟩
    rcases hmoment.cases_concat with ⟨rfl, rfl⟩ | hearlier
    · obtain rfl := hmoment.eq_of_last hs
      exact .inr ⟨rfl, haccepts, c, hc, hunchecked⟩
    · exact .inl ⟨before, t, t', c, hearlier, haccepts, hc, hunchecked⟩
  · rintro (⟨before, t, t', c, hmoment, hrest⟩ | ⟨rfl, haccepts, c, hc, hunchecked⟩)
    · exact ⟨before, t, t', c, hmoment.mono (List.prefix_append _ _), hrest⟩
    · exact ⟨actions, s, s', c, moment_last hs ha, haccepts, hc, hunchecked⟩

/-- Is it an outcome that a call can have that was asked in time? -/
def RunOutcome.isHeldBack : RunOutcome → Bool
  | .error .cancelled | .error (.unavailable _) | .error (.prepare ..) => true
  | _ => false

/-- Is a call before its last look for requests, or settled without a container? -/
def Stage.HeldBack (st : Stage) : Prop :=
  st.isUnchecked = true ∨ ∃ outcome, st.verdict? = some outcome ∧ outcome.isHeldBack = true

/-- **The step lemma.** Who is held back stays held back, as long as the last look finds the request. -/
theorem Transition.heldBack {id : String} {q : RunRequest} {r r' : Runner} {st st' : Stage} {m : Move}
    (h : Transition id q n r st m r' st') (hst : st.HeldBack)
    (hasked : (∃ spec, st = .prepared spec) → r.isCancelled n = true) :
    st'.HeldBack := by
  rcases hst with hunchecked | ⟨outcome, hverdict, hheld⟩
  · cases h
    case answerYes | beginPreparing | prepare => exact .inl rfl
    case answerNo | cancelCheck | cancelPrepared => exact .inr ⟨_, rfl, rfl⟩
    case prepareFails hprepare =>
      obtain ⟨path, cause, rfl⟩ := prepare_error hprepare
      exact .inr ⟨_, rfl, rfl⟩
    case proceed hkeep =>
      rw [hasked ⟨_, rfl⟩] at hkeep
      cases hkeep
    all_goals cases hunchecked
  · exact .inr ⟨outcome, h.verdict?_eq hverdict, hheld⟩

/-- **A call that was asked in time is held back.** -/
theorem heldBack_run (hbusy : r.busy = false) (hslot : r.slot = none) (h : (Session.start r).run actions = some s)
    (hasked : AskedInTime r actions n) : ∃ c, s.calls[n]? = some c ∧ c.stage.HeldBack := by
  refine run_history (I := fun before s => AskedInTime r before n → ∃ c, s.calls[n]? = some c ∧ c.stage.HeldBack) ?_ ?_ h
    hasked
  · rintro ⟨before, t, t', c, hmoment, -⟩
    exact absurd hmoment not_moment_nil
  · intro before s a s' hs ih ha hasked
    rcases (askedInTime_concat hs ha).mp hasked with hearlier | ⟨rfl, -, c, hc, hunchecked⟩
    · obtain ⟨c, hc, hheld⟩ := ih hearlier
      rcases call_after ha hc with ⟨hsame, -⟩ | ⟨m, st, -, ht, hst⟩
      · exact ⟨c, hsame, hheld⟩
      · refine ⟨_, hst, ht.heldBack hheld ?_⟩
        rintro ⟨spec, hprepared⟩
        -- the slot is the call's own up to its last look, so the request is still in it
        have hholds := (slotted_run hbusy hslot hs).holds hc (by rw [hprepared]; rfl)
        rw [hprepared] at hholds
        obtain ⟨requested, hrequested⟩ := hholds
        exact (isCancelled_iff hbusy hslot hs).mpr ⟨⟨_, hrequested, rfl⟩, hearlier.asked⟩
    · rcases call_after ha hc with ⟨hsame, -⟩ | ⟨m, st, hmove, -⟩
      · exact ⟨c, hsame, .inl hunchecked⟩
      · cases hmove

/-- **A call that was asked in time does not start its container.** -/
theorem not_started_of_askedInTime (hbusy : r.busy = false) (hslot : r.slot = none) (hasked : AskedInTime r actions n) :
    ¬ Started r actions n := by
  rintro ⟨before, t, t', hstart⟩
  obtain ⟨c, -, spec, hc, hstarting, -⟩ := start_cases hstart.act
  obtain ⟨before', u, u', d, hcancel, haccepts, hd, hunchecked⟩ := hasked
  -- a request before the start holds the call back from it, and after the start there is no request in time any more
  rcases hcancel.order hstart with ⟨-, heq⟩ | hearlier | hlater
  · cases heq
  · obtain ⟨x, hx, hheld⟩ := heldBack_run hbusy hslot hstart.reached ⟨before', u, u', d, hearlier, haccepts, hd, hunchecked⟩
    obtain rfl : c = x := Option.some.inj (hc.symm.trans hx)
    rw [hstarting] at hheld
    rcases hheld with hheld | ⟨outcome, hverdict, -⟩
    · cases hheld
    · cases hverdict
  · obtain ⟨x, hx, hreach⟩ := reach_of_started ⟨before, t, t', hlater⟩ hcancel.reached
    obtain rfl : d = x := Option.some.inj (hd.symm.trans hx)
    have hle := hreach.trans (reach_le_of_isUnchecked hunchecked)
    exact absurd hle (by decide)

end LintPlan
