import LintPlan.Proofs.Execution.EventBlocks
import LintPlan.Proofs.Execution.Renaming
import LintPlan.Proofs.Execution.Verdicts

/-!
# One call at a time

A call that finds another one in is turned away, and nobody can tell that it was made: leave its actions out of the
history, and all that happens is what happened with them.

* **`Session.without`**, **`actionsWithout`** — a session and a history in which one call was not made. Calls that were made
  after it have the numbers below theirs.
* **`act_without`** — the step lemma: an action of another call does the same without the call.
* **`run_without`** — by induction, so does a whole history.
* **`run_oneAtATime`** — the flag, the slot, and what becomes of a call that finds the flag up.
-/

namespace LintPlan

/-! ## §1 — leaving a call out

A session without one of its calls: later calls count one less. -/

/-- The number of a call if call number `n` is not counted. -/
def numberWithout (n k : Nat) : Nat := if n < k then k - 1 else k

/-- The same runner if call number `n` is not counted. -/
def Runner.without (r : Runner) (n : Nat) : Runner :=
  { r with slot := r.slot.map fun slot => { slot with owner := numberWithout n slot.owner } }

/-- The same session if call number `n` was not made. -/
def Session.without (s : Session) (n : Nat) : Session := ⟨s.runner.without n, s.calls.eraseIdx n⟩

/-- The action, before which `made` calls were made, unless it belongs to call number `n`. -/
def Action.without (n made : Nat) : Action → Option Action
  | .call id q => if made = n then none else some (.call id q)
  | .move k m => if k = n then none else some (.move (numberWithout n k) m)
  | .cancel => some .cancel

/-- The number of calls that were made after an action. -/
def Action.made (made : Nat) : Action → Nat
  | .call .. => made + 1
  | _ => made

/-- The actions, before which `made` calls were made, without those of call number `n`. -/
def actionsWithout (n : Nat) : (made : Nat) → List Action → List Action
  | _, [] => []
  | made, a :: rest => (a.without n made).toList ++ actionsWithout n (a.made made) rest

variable {n k : Nat} {r ρ : Runner}

/-- Not counting a call, as a renaming. -/
def notCounting (n : Nat) : Renaming := ⟨numberWithout n, id, id, fun _ => rfl⟩

/-- Different calls, neither of which is left out, keep different numbers. -/
theorem numberWithout_inj {j : Nat} (hj : j ≠ n) (hk : k ≠ n) : numberWithout n j = numberWithout n k ↔ j = k := by
  unfold numberWithout
  split <;> split <;> omega

theorem renamed_notCounting (c : Call) : c.renamed (notCounting n) = c := by
  obtain ⟨id, q, stage⟩ := c
  cases stage <;> rfl

theorem inStep_without (r : Runner) : Runner.InStep (notCounting n) r (r.without n) r (r.without n) :=
  ⟨rfl, rfl, rfl, rfl, .inl rfl, ⟨[], rfl, rfl⟩, ⟨[], (List.append_nil _).symm, (List.append_nil _).symm⟩⟩

/-- What is in step with a runner since both were the same but for the count is the same but for the count. -/
theorem Runner.InStep.eq_without {r' : Runner} (h : InStep (notCounting n) r (r.without n) r' ρ) : ρ = r'.without n := by
  have hevents : ∀ es : List ExecutionEvent, es.map (ExecutionEvent.renamed (notCounting n)) = es := by
    intro es
    refine (List.map_congr_left ?_).trans (List.map_id es)
    intro e _
    cases e <;> rfl
  have hacts : ∀ acts : List ContainerAct, acts.map (ContainerAct.renamed (notCounting n)) = acts := by
    intro acts
    refine (List.map_congr_left ?_).trans (List.map_id acts)
    intro act _
    cases act <;> rfl
  obtain ⟨es, hes, hes'⟩ := h.bus
  obtain ⟨acts, hold, hnew⟩ := h.acts
  rw [hevents] at hes'
  rw [hacts] at hnew
  -- if no state was come to, both are still in the one that they were in
  have hstate : ρ.state = r'.state := h.state.elim (fun hsame => hsame) fun hboth => hboth.2.trans hboth.1.symm
  obtain ⟨setup, files, bus, done, state, busy, slot⟩ := ρ
  obtain rfl : setup = r'.setup := h.setup
  obtain rfl : files = r'.files := h.files
  obtain rfl : bus = r'.bus := hes'.trans hes.symm
  obtain rfl : done = r'.acts := hnew.trans hold.symm
  obtain rfl : state = r'.state := hstate
  obtain rfl : busy = r'.busy := h.busy
  obtain rfl : slot = _ := h.slot
  rfl

/-! ## §2 — one action

If the call was turned away, leaving it out changes no action of the others. -/

variable {s s' : Session} {a : Action} {m : Move} {c : Call}

/-- A call that is not left out is found under its number. -/
theorem getElem?_without (hk : k ≠ n) : (s.without n).calls[numberWithout n k]? = s.calls[k]? := by
  show (s.calls.eraseIdx n)[numberWithout n k]? = s.calls[k]?
  rw [List.getElem?_eraseIdx]
  unfold numberWithout
  by_cases hlt : n < k
  · rw [if_pos hlt, if_neg (by omega), Nat.sub_add_cancel (by omega)]
  · rw [if_neg hlt, if_pos (by omega)]

/-- **A move of another call** does the same without the call, as long as the slot is not for the call. -/
theorem move_without (hk : k ≠ n) (hslot : ∀ slot, s.runner.slot = some slot → slot.owner ≠ n)
    (h : s.move k m = some s') : (s.without n).move (numberWithout n k) m = some (s'.without n) := by
  unfold Session.move at h ⊢
  rw [getElem?_without hk]
  obtain hc | ⟨c, hc⟩ := s.calls[k]?.eq_none_or_eq_some
  · rw [hc] at h
    cases h
  · rw [hc] at h ⊢
    obtain ⟨⟨r', st⟩, hstep, rfl⟩ := Option.map_eq_some_iff.mp h
    -- neither the call nor the owner of the slot is the one that is left out
    have hapart : s.runner.Apart (notCounting n) k := fun slot hsome => numberWithout_inj (hslot slot hsome) hk
    have hrel := step_inStep (c := c) (m := m) (inStep_without s.runner) hapart
    rw [renamed_notCounting, hstep] at hrel
    change StepInStep _ _ _ _ (c.step (numberWithout n k) (s.runner.without n) m) at hrel
    generalize hnext : c.step (numberWithout n k) (s.runner.without n) m = next at hrel
    cases hrel with
    | some hboth =>
      obtain ⟨hin, hst⟩ := hboth
      rename_i next
      obtain ⟨ρ', st'⟩ := next
      obtain rfl : st' = st := by
        rw [show st' = st.renamed (notCounting n) from hst]
        cases st <;> rfl
      obtain rfl : ρ' = r'.without n := hin.eq_without
      have hset : (s.calls.eraseIdx n).set (numberWithout n k) { c with stage := st' } =
          (s.calls.set k { c with stage := st' }).eraseIdx n := by
        rw [List.eraseIdx_set]
        unfold numberWithout
        by_cases hlt : n < k
        · rw [if_pos hlt, if_pos hlt]
        · rw [if_neg hlt, if_neg hlt, if_neg (Ne.symm hk)]
      show Option.map _ (c.step (numberWithout n k) (s.runner.without n) m) = some (Session.mk _ (List.eraseIdx _ n))
      rw [hnext, ← hset]
      rfl

/-- **A call that is made** is made without the one that is left out, unless it is this one. -/
theorem makeCall_without (s : Session) (id : String) (q : RunRequest) :
    (s.without n).run ((Action.call id q).without n s.calls.length).toList = some ((s.makeCall id q).without n) := by
  show (s.without n).run (if s.calls.length = n then none else some (Action.call id q)).toList = _
  by_cases hn : s.calls.length = n
  · have hcalls : (s.calls ++ [Call.mk id q .arrived]).eraseIdx n = s.calls.eraseIdx n := by
      rw [List.eraseIdx_append_of_length_le (le_of_eq hn), List.eraseIdx_of_length_le (le_of_eq hn), hn, Nat.sub_self]
      exact List.append_nil _
    rw [if_pos hn]
    exact congrArg (fun calls => some (Session.mk (s.runner.without n) calls)) hcalls.symm
  · have hcalls : (s.calls ++ [Call.mk id q .arrived]).eraseIdx n = s.calls.eraseIdx n ++ [Call.mk id q .arrived] := by
      obtain hlt | hle := Nat.lt_or_gt_of_ne hn
      · rw [List.eraseIdx_of_length_le (by rw [List.length_append]; exact hlt), List.eraseIdx_of_length_le hlt.le]
      · rw [List.eraseIdx_append_of_lt_length hle]
    rw [if_neg hn]
    exact congrArg (fun calls => some (Session.mk (s.runner.without n) calls)) hcalls.symm

/-- **A request to cancel** does the same without the call. -/
theorem cancel_without (s : Session) :
    (s.without n).run [.cancel] = some (Session.without { s with runner := s.runner.cancel } n) :=
  congrArg (fun runner => some (Session.mk runner (s.calls.eraseIdx n))) (inStep_without s.runner).cancel.eq_without

/-- **One action.** As long as a call has not begun, or was turned away, the actions of others do the same without the call,
and its own do nothing that anybody else could notice. -/
theorem act_without (hslot : ∀ slot, s.runner.slot = some slot → slot.owner ≠ n)
    (hbefore : ∀ c, s.calls[n]? = some c → c.stage.Quiet) (hafter : ∀ c, s'.calls[n]? = some c → c.stage.Quiet)
    (h : s.act a = some s') : (s.without n).run (a.without n s.calls.length).toList = some (s'.without n) := by
  cases a with
  | call id q =>
    cases h
    exact makeCall_without s id q
  | cancel =>
    cases h
    exact cancel_without s
  | move k m =>
    show (s.without n).run (if k = n then none else some (Action.move (numberWithout n k) m)).toList = _
    by_cases hk : k = n
    · subst hk
      rw [if_pos rfl]
      rcases act_cases h with ⟨id, q, hcall, -⟩ | ⟨hcancel, -⟩ | ⟨k', c, m', r', st, hmove, hc, ht, rfl⟩
      · cases hcall
      · cases hcancel
      · cases hmove
        -- it is turned away, as it is not past the door afterwards
        have hquiet := hafter _ ((getElem?_set_call hc).mpr (.inl ⟨rfl, rfl⟩))
        rcases (ht.quiet_or_pastDoor (hbefore c hc)).2 with ⟨-, rfl, -⟩ | ⟨-, hpast⟩
        · show some (Session.mk _ (s.calls.eraseIdx k)) = some (Session.mk _ ((s.calls.set k _).eraseIdx k))
          rw [List.eraseIdx_set_eq]
        · exact absurd hpast hquiet.not_pastDoor
    · rw [if_neg hk]
      exact (bind_pure _).trans (move_without hk hslot h)

theorem length_calls_act (h : s.act a = some s') : s'.calls.length = a.made s.calls.length := by
  rcases act_cases h with ⟨id, q, rfl, rfl⟩ | ⟨rfl, rfl⟩ | ⟨k, c, m, r', st, rfl, hc, ht, rfl⟩
  · exact List.length_append
  · rfl
  · exact List.length_set

/-! ## §3 — histories

So whole histories can be without it. -/

/-- **A call that was turned away might as well not have been made:** without its actions a history leads to the same
session, but for the call. -/
theorem run_without {before actions : List Action} (hbusy : r.busy = false) (hslot : r.slot = none)
    (hs : (Session.start r).run before = some s) (h : s.run actions = some s')
    (haway : s'.result? n = some (.error .busy)) :
    (s.without n).run (actionsWithout n s.calls.length actions) = some (s'.without n) := by
  obtain ⟨x, hx, hreturned⟩ := stage_of_result? haway
  have haway : x.stage.Quiet := .inr hreturned
  -- a call that came past the door at any time would not have been turned away in the end
  have hquiet : ∀ {before more t}, (Session.start r).run before = some t → t.run more = some s' →
      ∀ c, t.calls[n]? = some c → c.stage.Quiet := by
    intro before more t ht hmore c hc
    refine (quiet_or_pastDoor_run ht hc).resolve_right fun hpast => ?_
    obtain ⟨d, hd, hle⟩ := reach_run hmore hc
    obtain rfl : d = x := Option.some.inj (hd.symm.trans hx)
    exact haway.not_pastDoor (Nat.lt_of_lt_of_le hpast hle)
  -- from the front, with the history so far growing, as the numbers of calls depend on how many were made
  induction actions generalizing before s with
  | nil =>
    cases h
    rfl
  | cons a rest ih =>
    have hfold : (s.act a).bind (Session.run · rest) = some s' := h
    obtain ⟨t, ha, hrest⟩ := Option.bind_eq_some_iff.mp hfold
    have ht : (Session.start r).run (before ++ [a]) = some t := run_concat.mpr ⟨s, hs, ha⟩
    -- the slot is for a call that is in, and this one never is
    have howner : ∀ slot, s.runner.slot = some slot → slot.owner ≠ n := by
      rintro slot hsome rfl
      obtain ⟨flight, hflight⟩ := flight_run hbusy hs
      obtain ⟨c, hc, hlive⟩ := (slotted_run hbusy hslot hs).live hflight hsome
      rw [(hquiet hs h c hc).isLive_eq] at hlive
      cases hlive
    rw [actionsWithout, run_append, act_without howner (hquiet hs h) (hquiet ht hrest) ha, ← length_calls_act ha]
    exact ih ht hrest

/-- In a session `s` that the history `actions` of the runner `r` led to, there is one call at a time. -/
structure OneAtATime (r : Runner) (actions : List Action) (s : Session) : Prop where
  /-- No two calls are in. -/
  alone : ∀ {j k : Nat} {c d : Call}, s.calls[j]? = some c → s.calls[k]? = some d → c.stage.isLive = true →
    d.stage.isLive = true → j = k
  /-- The flag is up exactly while a call is in. -/
  flag : s.runner.busy = true ↔ ∃ (k : Nat) (c : Call), s.calls[k]? = some c ∧ c.stage.isLive = true
  /-- The slot is filled only while a call is in, and only for this call. -/
  slot : ∀ {slot : CancelSlot}, s.runner.slot = some slot →
    ∃ c : Call, s.calls[slot.owner]? = some c ∧ c.stage.isLive = true
  /-- Nobody takes the slot from the call that is in. -/
  holds : ∀ {n : Nat} {c : Call}, s.calls[n]? = some c → c.stage.isLive = true → c.stage.Holds n s.runner.slot
  /-- All that a call can do that finds the flag up is return at once; it changes nothing that others can see. -/
  turnedAway : ∀ {n : Nat} {c : Call} {m : Move} {s' : Session}, s.calls[n]? = some c → c.stage = .arrived →
    s.runner.busy = true →
      (s.move n m = some s' ↔
        m = .goOn ∧ s' = { s with calls := s.calls.set n { c with stage := .returned (.error .busy) } })
  /-- A call that was turned away might as well not have been made: without its actions, everything that happened to the
  runner and to all other calls happens again. -/
  unnoticed : ∀ {n : Nat}, s.result? n = some (.error .busy) →
    (Session.start r).run (actionsWithout n 0 actions) = some (s.without n)

/-- What a call does that finds the flag up. -/
theorem move_arrived_of_busy {n : Nat} (hc : s.calls[n]? = some c) (harrived : c.stage = .arrived)
    (hbusy : s.runner.busy = true) :
    s.move n m = some s' ↔
      m = .goOn ∧ s' = { s with calls := s.calls.set n { c with stage := .returned (.error .busy) } } := by
  have hstep : c.step n s.runner m = if m = .goOn then some (s.runner, .returned (.error .busy)) else none := by
    obtain ⟨id, q, stage⟩ := c
    obtain rfl : stage = .arrived := harrived
    cases m
    case goOn => simp only [Call.step, Call.approach, hbusy, if_true]
    all_goals rfl
  unfold Session.move
  rw [hc]
  dsimp only
  rw [hstep]
  by_cases hm : m = .goOn
  · rw [if_pos hm]
    simp [hm, eq_comm]
  · rw [if_neg hm]
    simp [hm]

/-- **One call at a time.** However calls overlap, and whenever they are cancelled: no more than one is past the door, the
flag and the slot are its own, and a call that is turned away leaves no trace. -/
theorem run_oneAtATime (setup : RunnerSetup) (files : FileTree) (bus : EventBus) (actions : List Action) (s : Session)
    (hrun : (Session.start { Runner.idle setup files with bus := bus }).run actions = some s) :
    OneAtATime { Runner.idle setup files with bus := bus } actions s := by
  obtain ⟨flight, hflight⟩ := flight_run rfl hrun
  have hslotted := slotted_run rfl rfl hrun
  have hnothing : ∀ t : Session, t.run [] = some t := fun _ => rfl
  refine ⟨?_, ?_, hslotted.live hflight, hslotted.holds, move_arrived_of_busy,
    run_without rfl rfl (hnothing _) hrun⟩
  · intro j k c d hc hd hcin hdin
    have hj := (hflight.live hc).mp hcin
    have hk := (hflight.live hd).mp hdin
    exact Option.some.inj (hj.symm.trans hk)
  · rw [hflight.busy, Option.isSome_iff_exists]
    constructor
    · rintro ⟨n, hn⟩
      have hlt := hflight.known hn
      exact ⟨n, _, List.getElem?_eq_getElem hlt, (hflight.live (List.getElem?_eq_getElem hlt)).mpr hn⟩
    · rintro ⟨n, c, hc, hlive⟩
      exact ⟨n, (hflight.live hc).mp hlive⟩

/-- Overlapping calls, one of which is turned away. -/
theorem run_oneAtATime_overlapping :
    ∃ s, (Session.start listenedTo).run overlappingCalls = some s ∧ s.result? 1 = some (.error .busy) ∧
      OneAtATime listenedTo overlappingCalls s := by
  have haway : (((Session.start listenedTo).run overlappingCalls).any fun s =>
      s.result? 1 == some (.error .busy)) = true := by decide
  obtain ⟨s, hrun, hresult⟩ := (Option.any_eq_true _ _).mp haway
  exact ⟨s, hrun, beq_iff_eq.mp hresult, run_oneAtATime _ _ _ overlappingCalls s hrun⟩

end LintPlan
