import LintPlan.Proofs.Execution.EventGrammar
import LintPlan.Proofs.Execution.Histories

/-!
# What decides the outcome of a call

From some step on the outcome of a call is settled, long before the call returns it: the container may still have to be
stopped, and the call has to leave.

* **`Stage.verdict?`** — the outcome that is settled at a stage; **`Transition.verdict?_eq`** says that it stays.
* **`Stage.reach`** — how far a call has come; **`reach_run`** says that no call falls back, so that an outcome tells what has
  not happened.
* **`quiet_or_pastDoor_run`** — a call has not begun, was turned away, or is past the door.
* **`noticed_run`** — the outcome is `cancelled` exactly if the call has noticed a request to cancel.
* **`noticed_asked`** — and nothing is noticed that was not asked.
* **`isCancelled_of_asked`** — a request waits in the slot until the outcome is settled.
-/

namespace LintPlan

/-- The outcome of a call that is settled at a stage. -/
def Stage.verdict? : Stage → Option RunOutcome
  | .stopping _ why | .waiting _ why | .killing _ why => some (.error why)
  | .ended outcome | .reporting outcome | .leaving outcome | .deaf outcome | .released outcome | .returned outcome =>
    some outcome
  | _ => none

section

variable {id : String} {q : RunRequest} {n : Nat} {r r' : Runner} {st st' : Stage} {m : Move} {outcome : RunOutcome}

/-- **A verdict stays.** -/
theorem Transition.verdict?_eq (h : Transition id q n r st m r' st') (hst : st.verdict? = some outcome) :
    st'.verdict? = some outcome := by
  cases h <;> first | exact hst | cases hst

/-! ## §1 — how far a call comes

Stages and outcomes are numbered by how far a call has come; steps lead forward. -/

/-- How far a call with an outcome can have come. -/
def RunOutcome.reach : RunOutcome → Nat
  | .error .busy => 0
  | .error (.unavailable _) => 2
  | .error (.prepare ..) => 4
  | _ => 7

/-- How far a call has come, counted in stages up to the one with a container. Once its outcome is settled, only how far it
can have come is known. -/
def Stage.reach : Stage → Nat
  | .arrived => 0
  | .admitted => 1
  | .checking => 2
  | .available => 3
  | .preparing => 4
  | .prepared _ => 5
  | .starting _ => 6
  | .running .. => 7
  | .stopping _ why | .waiting _ why | .killing _ why => RunOutcome.reach (.error why)
  | .ended outcome | .reporting outcome | .leaving outcome | .deaf outcome | .released outcome | .returned outcome =>
    outcome.reach

theorem reach_outcome (w : Watch) (code : ExitCode) : RunOutcome.reach (w.outcome code) = 7 := by
  unfold Watch.outcome
  split <;> rfl

/-- **A call never falls back.** -/
theorem Transition.reach_le (h : Transition id q n r st m r' st') : st.reach ≤ st'.reach := by
  cases h
  case prepareFails hprepare =>
    obtain ⟨path, cause, rfl⟩ := prepare_error hprepare
    exact le_refl _
  case pipesCloseLast | noticeExitLast => exact (reach_outcome _ _).ge
  -- settled outcomes stay, and the other steps lead from one known stage to another
  all_goals first | exact le_refl _ | exact Nat.le_of_ble_eq_true rfl

/-- Is a call past the door, at the latest on its way out again? -/
def Stage.PastDoor (st : Stage) : Prop := 0 < st.reach

/-- A call that has not begun, or that was turned away. -/
def Stage.Quiet (st : Stage) : Prop := st = .arrived ∨ st = .returned (.error .busy)

theorem Stage.Quiet.not_pastDoor (h : st.Quiet) : ¬ st.PastDoor := by
  obtain rfl | rfl := h <;> exact Nat.lt_irrefl 0

theorem Stage.Quiet.isLive_eq (h : st.Quiet) : st.isLive = false := by
  obtain rfl | rfl := h <;> rfl

/-- A call that begins is turned away or comes past the door; a call that was turned away stays where it is. -/
theorem Transition.quiet_or_pastDoor (h : Transition id q n r st m r' st') (hst : st.Quiet) :
    st = .arrived ∧ (r.busy = true ∧ r' = r ∧ st' = .returned (.error .busy) ∨ r.busy = false ∧ st'.PastDoor) := by
  rcases hst with rfl | rfl
  · refine ⟨rfl, ?_⟩
    cases h with
    | turnedAway hbusy => exact .inl ⟨hbusy, rfl, rfl⟩
    | letIn hidle => exact .inr ⟨hidle, Nat.one_pos⟩
  · cases h

end

variable {r : Runner} {actions before : List Action} {s s' : Session} {a : Action} {n : Nat} {c : Call}
  {outcome : RunOutcome}

/-- **A call has not begun, was turned away, or is past the door.** -/
theorem quiet_or_pastDoor_run (h : (Session.start r).run actions = some s) (hc : s.calls[n]? = some c) :
    c.stage.Quiet ∨ c.stage.PastDoor := by
  refine run_invariant (I := fun s => ∀ c, s.calls[n]? = some c → c.stage.Quiet ∨ c.stage.PastDoor) ?_ h ?_ c hc
  · intro s a s' hs ha x hx
    rcases call_before ha hx with ⟨-, harrived, -⟩ | ⟨c, hc⟩
    · exact .inl (.inl harrived)
    · rcases call_after ha hc with ⟨hsame, -⟩ | ⟨m, st, -, ht, hst⟩
      · obtain rfl : c = x := Option.some.inj (hsame.symm.trans hx)
        exact hs c hc
      · obtain rfl := Option.some.inj (hst.symm.trans hx)
        rcases hs c hc with hquiet | hpast
        · rcases (ht.quiet_or_pastDoor hquiet).2 with ⟨-, -, haway⟩ | ⟨-, hpast⟩
          · exact .inl (.inr haway)
          · exact .inr hpast
        · exact .inr (Nat.lt_of_lt_of_le hpast ht.reach_le)
  · intro c hc
    cases hc

/-- **A call has come at least as far as it had come before.** -/
theorem reach_run (h : s.run actions = some s') (hc : s.calls[n]? = some c) :
    ∃ c', s'.calls[n]? = some c' ∧ c.stage.reach ≤ c'.stage.reach := by
  refine run_invariant (I := fun s => ∃ c', s.calls[n]? = some c' ∧ c.stage.reach ≤ c'.stage.reach) ?_ h
    ⟨c, hc, le_refl _⟩
  rintro s a s' ⟨c', hc', hle⟩ ha
  rcases call_after ha hc' with ⟨hsame, -⟩ | ⟨m, st, -, ht, hst⟩
  · exact ⟨c', hsame, hle⟩
  · exact ⟨_, hst, hle.trans ht.reach_le⟩

/-! ## §2 — noticing a request

A call is cancelled by a move of its own, in one of two ways. -/

/-- Does a call notice by a move that it is to be cancelled? It does during the check and while it watches the container,
and looks once more when everything is prepared. -/
def Session.Notices (s : Session) (n : Nat) (m : Move) : Prop :=
  m = .noticeCancel ∨
    m = .goOn ∧ s.runner.isCancelled n = true ∧ ∃ c spec, s.calls[n]? = some c ∧ c.stage = .prepared spec

/-- In a history, the call with this number has noticed that it is to be cancelled. -/
def Noticed (r : Runner) (actions : List Action) (n : Nat) : Prop :=
  ∃ before s m s', Moment r actions before s (.move n m) s' ∧ s.Notices n m

/-- One more action is a notice only if it is a move by which the call notices. -/
theorem noticed_concat (hs : (Session.start r).run actions = some s) (ha : s.act a = some s') :
    Noticed r (actions ++ [a]) n ↔ Noticed r actions n ∨ ∃ m, a = .move n m ∧ s.Notices n m := by
  constructor
  · rintro ⟨before, t, m, t', hmoment, hnotices⟩
    rcases hmoment.cases_concat with ⟨rfl, rfl⟩ | hearlier
    · obtain rfl := hmoment.eq_of_last hs
      exact .inr ⟨m, rfl, hnotices⟩
    · exact .inl ⟨before, t, m, t', hearlier, hnotices⟩
  · rintro (⟨before, t, m, t', hmoment, hnotices⟩ | ⟨m, rfl, hnotices⟩)
    · exact ⟨before, t, m, t', hmoment.mono (List.prefix_append _ _), hnotices⟩
    · exact ⟨actions, s, m, s', moment_last hs ha, hnotices⟩

/-- **A step settles `cancelled` exactly if the call notices that it is to be cancelled.** -/
theorem Transition.cancelled_iff {id : String} {q : RunRequest} {r r' : Runner} {st st' : Stage} {m : Move}
    (h : Transition id q n r st m r' st') (hopen : st.verdict? = none) :
    st'.verdict? = some (.error .cancelled) ↔
      m = .noticeCancel ∨ m = .goOn ∧ r.isCancelled n = true ∧ ∃ spec, st = .prepared spec := by
  cases h
  case prepareFails hprepare =>
    obtain ⟨path, cause, rfl⟩ := prepare_error hprepare
    simp [Stage.verdict?]
  case pipesCloseLast | noticeExitLast =>
    simp only [Stage.verdict?, Option.some.injEq, reduceCtorEq, false_and, or_false, iff_false]
    unfold Watch.outcome
    split <;> exact nofun
  case cancelPrepared hcancel => simp [Stage.verdict?, hcancel]
  case proceed hkeep => simp [Stage.verdict?, hkeep]
  all_goals cases hopen <;> simp [Stage.verdict?]

/-- **The outcome is settled as `cancelled` exactly if the call has noticed that it is to be cancelled.** -/
theorem noticed_run (h : (Session.start r).run actions = some s) :
    Noticed r actions n ↔ ∃ c, s.calls[n]? = some c ∧ c.stage.verdict? = some (.error .cancelled) := by
  refine run_history
    (I := fun before s => Noticed r before n ↔
      ∃ c, s.calls[n]? = some c ∧ c.stage.verdict? = some (.error .cancelled)) ?_ ?_ h
  · constructor
    · rintro ⟨before, t, m, t', hmoment, -⟩
      exact absurd hmoment not_moment_nil
    · rintro ⟨c, hc, -⟩
      cases hc
  · intro before s a s' hs ih ha
    rw [noticed_concat hs ha, ih]
    -- forwards: what is settled stays, and a notice settles it; backwards: only a notice has settled it
    constructor
    · rintro (⟨c, hc, hverdict⟩ | ⟨m, rfl, hnotices⟩)
      · rcases call_after ha hc with ⟨hsame, -⟩ | ⟨m, st, -, ht, hst⟩
        · exact ⟨c, hsame, hverdict⟩
        · exact ⟨_, hst, ht.verdict?_eq hverdict⟩
      · obtain ⟨c, r', st, hc, ht, -, hst⟩ := move_cases ha
        refine ⟨_, hst, ?_⟩
        obtain hopen | ⟨verdict, hverdict⟩ := c.stage.verdict?.eq_none_or_eq_some
        · refine (ht.cancelled_iff hopen).mpr ?_
          rcases hnotices with rfl | ⟨rfl, hcancel, d, spec, hd, hprepared⟩
          · exact .inl rfl
          · obtain rfl : c = d := Option.some.inj (hc.symm.trans hd)
            exact .inr ⟨rfl, hcancel, spec, hprepared⟩
        · -- nothing is noticed where the outcome is settled
          rcases hnotices with rfl | ⟨rfl, hcancel, d, spec, hd, hprepared⟩
          · generalize c.stage = stage at ht hverdict
            cases ht <;> cases hverdict
          · obtain rfl : c = d := Option.some.inj (hc.symm.trans hd)
            rw [hprepared] at hverdict
            cases hverdict
    · rintro ⟨x, hx, hverdict⟩
      rcases call_before ha hx with ⟨-, harrived, -⟩ | ⟨c, hc⟩
      · rw [harrived] at hverdict
        cases hverdict
      · rcases call_after ha hc with ⟨hsame, -⟩ | ⟨m, st, rfl, ht, hst⟩
        · obtain rfl : c = x := Option.some.inj (hsame.symm.trans hx)
          exact .inl ⟨c, hc, hverdict⟩
        · obtain rfl := Option.some.inj (hst.symm.trans hx)
          obtain hopen | ⟨settled, hsettled⟩ := c.stage.verdict?.eq_none_or_eq_some
          · refine .inr ⟨m, rfl, ?_⟩
            rcases (ht.cancelled_iff hopen).mp hverdict with hnotice | ⟨hgoOn, hcancel, spec, hprepared⟩
            · exact .inl hnotice
            · exact .inr ⟨hgoOn, hcancel, c, spec, hc, hprepared⟩
          · have hsame := ht.verdict?_eq hsettled
            exact .inl ⟨c, hc, hsettled.trans (hsame.symm.trans hverdict)⟩

/-- A call notices only what it was asked. -/
theorem Session.Notices.isCancelled {m : Move} (h : s.Notices n m) (ha : s.act (.move n m) = some s') :
    s.runner.isCancelled n = true := by
  rcases h with rfl | ⟨-, hcancelled, -⟩
  · rcases act_cases ha with ⟨id, q, hcall, -⟩ | ⟨hcancel, -⟩ | ⟨k, c, m, r', st, hmove, -, ht, -⟩
    · cases hcall
    · cases hcancel
    · cases hmove
      generalize c.stage = stage at ht
      cases ht <;> assumption
  · exact hcancelled

/-- The slot says that a call is asked to cancel exactly if the slot is its own and it has been asked. -/
theorem isCancelled_iff (hbusy : r.busy = false) (hslot : r.slot = none) (h : (Session.start r).run actions = some s) :
    s.runner.isCancelled n = true ↔ (∃ slot, s.runner.slot = some slot ∧ slot.owner = n) ∧ Asked r actions n := by
  have hheeded := heeded_run hbusy hslot h
  unfold Runner.isCancelled
  cases hs : s.runner.slot with
  | none => simp
  | some slot =>
    simp only [Bool.and_eq_true, beq_iff_eq, hheeded.slot hs, Option.some.injEq, exists_eq_left']
    constructor
    · rintro ⟨rfl, hasked⟩
      exact ⟨rfl, hasked⟩
    · rintro ⟨rfl, hasked⟩
      exact ⟨rfl, hasked⟩

/-- **A call that has noticed that it is to be cancelled has been asked.** -/
theorem noticed_asked (hbusy : r.busy = false) (hslot : r.slot = none) (h : Noticed r actions n) : Asked r actions n := by
  obtain ⟨before, s, m, s', hmoment, hnotices⟩ := h
  have hcancelled := hnotices.isCancelled hmoment.act
  have hasked := ((isCancelled_iff hbusy hslot hmoment.reached).mp hcancelled).2
  exact hasked.mono ((List.prefix_append _ _).trans hmoment.part)

/-! ## §3 — requests wait

A request stays in the slot until the call is over. -/

/-- From the check until the outcome is settled, the slot is open for the call. -/
theorem Stage.Holds.isOpen {st : Stage} {slot : Option CancelSlot} (h : st.Holds n slot) (hearly : st.isEarly = false)
    (hopen : st.verdict? = none) : ∃ requested, slot = some ⟨n, requested, true⟩ := by
  cases st
  case arrived | admitted => cases hearly
  case checking | available | preparing | prepared | starting | running => exact h
  all_goals cases hopen

theorem isLive_of_verdict? {st : Stage} (hearly : st.isEarly = false) (hopen : st.verdict? = none) : st.isLive = true := by
  cases st
  case arrived => cases hearly
  case returned => cases hopen
  all_goals rfl

/-- **A request waits in the slot until the outcome of the call is settled.** -/
theorem isCancelled_of_asked (hbusy : r.busy = false) (hslot : r.slot = none) (h : (Session.start r).run actions = some s)
    (hasked : Asked r actions n) (hc : s.calls[n]? = some c) (hopen : c.stage.verdict? = none) :
    s.runner.isCancelled n = true := by
  -- it has been asked, so its slot has been opened, and the slot is open until the outcome is settled
  have hearly : c.stage.isEarly = false := by
    refine Bool.eq_false_iff.mpr fun hearly => ?_
    refine (heeded_run hbusy hslot h).early ?_ hasked
    intro x hx
    rwa [← Option.some.inj (hc.symm.trans hx)]
  have hholds := (slotted_run hbusy hslot h).holds hc (isLive_of_verdict? hearly hopen)
  obtain ⟨requested, hrequested⟩ := hholds.isOpen hearly hopen
  exact (isCancelled_iff hbusy hslot h).mpr ⟨⟨_, hrequested, rfl⟩, hasked⟩

end LintPlan
