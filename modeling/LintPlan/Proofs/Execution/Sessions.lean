import LintPlan.Execution.Session
import LintPlan.Proofs.Execution.Transitions

/-!
# Whole sessions

A session is a fold over actions, so whatever single actions preserve holds in every session. The induction is done here
once, together with the invariant that most others lean on:

* **`act_cases`** — an action makes a call, asks to cancel, or is a transition of one call.
* **`run_invariant`** — what every action preserves, a whole order of actions preserves.
* **`flight_run`** — in every session the flag is up exactly while one call, and no more than one, is past the door.
-/

namespace LintPlan

variable {s s' : Session} {actions : List Action}

/-! ## §1 — what an action can do

An inversion for each kind of action. Everything else is proved from these and not from the table. -/

/-- The calls after one more was made. -/
theorem getElem?_makeCall {id : String} {q : RunRequest} {n : Nat} {c : Call} :
    (s.makeCall id q).calls[n]? = some c ↔
      s.calls[n]? = some c ∨ n = s.calls.length ∧ c = ⟨id, q, .arrived⟩ := by
  unfold Session.makeCall
  rw [List.getElem?_append]
  by_cases hn : n < s.calls.length
  · rw [if_pos hn]
    have hne : n ≠ s.calls.length := by omega
    simp only [hne, false_and, or_false]
  · rw [if_neg hn, List.getElem?_eq_none (by omega : s.calls.length ≤ n)]
    by_cases he : n = s.calls.length
    · subst he
      simp [eq_comm]
    · have hout : [(⟨id, q, .arrived⟩ : Call)][n - s.calls.length]? = none :=
        List.getElem?_eq_none (by rw [List.length_singleton]; omega)
      simp [hout, he]

/-- The calls after one of them came to another stage. -/
theorem getElem?_set_call {n k : Nat} {c d x : Call} (hn : s.calls[n]? = some c) :
    (s.calls.set n d)[k]? = some x ↔ k = n ∧ x = d ∨ k ≠ n ∧ s.calls[k]? = some x := by
  obtain ⟨hlt, -⟩ := List.getElem?_eq_some_iff.mp hn
  rw [List.getElem?_set]
  by_cases hk : n = k
  · subst hk
    simp [hlt, eq_comm]
  · simp [hk, Ne.symm hk]

/-- **An action makes a call, asks to cancel, or is a transition of one call.** -/
theorem act_cases {a : Action} (h : s.act a = some s') :
    (∃ id q, a = .call id q ∧ s' = s.makeCall id q) ∨ (a = .cancel ∧ s' = { s with runner := s.runner.cancel }) ∨
      ∃ n c m r' st, a = .move n m ∧ s.calls[n]? = some c ∧ Transition c.id c.request n s.runner c.stage m r' st ∧
        s' = ⟨r', s.calls.set n { c with stage := st }⟩ := by
  cases a with
  | call id q =>
    cases h
    exact .inl ⟨id, q, rfl, rfl⟩
  | cancel =>
    cases h
    exact .inr (.inl ⟨rfl, rfl⟩)
  | move n m =>
    have hmove : s.move n m = some s' := h
    unfold Session.move at hmove
    obtain hc | ⟨c, hc⟩ := s.calls[n]?.eq_none_or_eq_some
    · rw [hc] at hmove
      cases hmove
    · rw [hc] at hmove
      obtain ⟨⟨r', st⟩, hstep, rfl⟩ := Option.map_eq_some_iff.mp hmove
      exact .inr (.inr ⟨n, c, m, r', st, rfl, hc, transition_of_step hstep, rfl⟩)

/-- **A move is a transition of its call.** -/
theorem move_cases {n : Nat} {m : Move} (h : s.act (.move n m) = some s') :
    ∃ c r' st, s.calls[n]? = some c ∧ Transition c.id c.request n s.runner c.stage m r' st ∧ s'.runner = r' ∧
      s'.calls[n]? = some { c with stage := st } := by
  rcases act_cases h with ⟨id, q, hcall, -⟩ | ⟨hcancel, -⟩ | ⟨k, c, m', r', st, hmove, hc, ht, rfl⟩
  · cases hcall
  · cases hcancel
  · cases hmove
    exact ⟨c, r', st, hc, ht, rfl, (getElem?_set_call hc).mpr (.inl ⟨rfl, rfl⟩)⟩

/-- **What an action does to one call:** it takes a step, or stays what it is. -/
theorem call_after {a : Action} {n : Nat} {c : Call} (h : s.act a = some s') (hc : s.calls[n]? = some c) :
    (s'.calls[n]? = some c ∧ ∀ m, a ≠ .move n m) ∨
      ∃ m st, a = .move n m ∧ Transition c.id c.request n s.runner c.stage m s'.runner st ∧
        s'.calls[n]? = some { c with stage := st } := by
  rcases act_cases h with ⟨id, q, rfl, rfl⟩ | ⟨rfl, rfl⟩ | ⟨k, d, m, r', st, rfl, hd, ht, rfl⟩
  · exact .inl ⟨getElem?_makeCall.mpr (.inl hc), nofun⟩
  · exact .inl ⟨hc, nofun⟩
  · by_cases hk : n = k
    · subst hk
      obtain rfl : c = d := Option.some.inj (hc.symm.trans hd)
      exact .inr ⟨m, st, rfl, ht, (getElem?_set_call hc).mpr (.inl ⟨rfl, rfl⟩)⟩
    · refine .inl ⟨(getElem?_set_call hd).mpr (.inr ⟨hk, hc⟩), ?_⟩
      rintro m' heq
      cases heq
      exact hk rfl

/-- **Where a call comes from:** it has just been made, or it was there. -/
theorem call_before {a : Action} {n : Nat} {x : Call} (h : s.act a = some s') (hx : s'.calls[n]? = some x) :
    (s.calls[n]? = none ∧ x.stage = .arrived ∧ ∀ m, a ≠ .move n m) ∨ ∃ c, s.calls[n]? = some c := by
  obtain hnone | hsome := s.calls[n]?.eq_none_or_eq_some
  · refine .inl ⟨hnone, ?_⟩
    rcases act_cases h with ⟨id, q, rfl, rfl⟩ | ⟨rfl, rfl⟩ | ⟨k, d, m, r', st, rfl, hd, ht, rfl⟩
    · rcases getElem?_makeCall.mp hx with hx | ⟨-, rfl⟩
      · cases hnone.symm.trans hx
      · exact ⟨rfl, nofun⟩
    · cases hnone.symm.trans hx
    · rcases (getElem?_set_call hd).mp hx with ⟨rfl, -⟩ | ⟨-, hx⟩
      · cases hnone.symm.trans hd
      · cases hnone.symm.trans hx
  · exact .inr hsome

/-! ## §2 — the induction

What each action keeps holds throughout. -/

/-- **Whatever every action preserves holds in every session.** -/
theorem run_invariant {I : Session → Prop} (hact : ∀ {s a s'}, I s → s.act a = some s' → I s')
    (h : s.run actions = some s') (hs : I s) : I s' := by
  induction actions generalizing s with
  | nil =>
    cases h
    exact hs
  | cons a rest ih =>
    have hfold : (s.act a).bind (Session.run · rest) = some s' := h
    obtain ⟨s₁, ha, hrest⟩ := Option.bind_eq_some_iff.mp hfold
    exact ih hrest (hact hs ha)

/-! ## §3 — one call at a time

The flag is up exactly while a call is in, and there is only one. -/

/-- The call that is past the door, if any: the flag is up for it, and no other call is live. -/
structure Flight (s : Session) (flight : Option Nat) : Prop where
  busy : s.runner.busy = flight.isSome
  live : ∀ {n c}, s.calls[n]? = some c → (c.stage.isLive = true ↔ flight = some n)
  known : ∀ {n}, flight = some n → n < s.calls.length

/-- What a transition does to the flag: it comes in, it goes out, or it stays on its side of the door. -/
theorem Transition.door {id : String} {q : RunRequest} {n : Nat} {r r' : Runner} {st st' : Stage} {m : Move}
    (h : Transition id q n r st m r' st') :
    (r.busy = false ∧ r'.busy = true ∧ st.isLive = false ∧ st'.isLive = true) ∨
      (r'.busy = false ∧ st.isLive = true ∧ st'.isLive = false) ∨
      (r'.busy = r.busy ∧ st'.isLive = st.isLive) := by
  cases h
  case letIn hidle => exact .inl ⟨hidle, rfl, rfl, rfl⟩
  case ret => exact .inr (.inl ⟨rfl, rfl, rfl⟩)
  case prepare hprepare | prepareFails hprepare =>
    obtain ⟨files, rfl⟩ := prepare_frame hprepare
    exact .inr (.inr ⟨rfl, rfl⟩)
  all_goals exact .inr (.inr ⟨rfl, rfl⟩)

/-- A call that has come in and can still take a step is in. -/
theorem Transition.isLive {id : String} {q : RunRequest} {n : Nat} {r r' : Runner} {st st' : Stage} {m : Move}
    (h : Transition id q n r st m r' st') (hin : st ≠ .arrived) : st.isLive = true := by
  cases h
  case turnedAway | letIn => exact absurd rfl hin
  all_goals rfl

/-- Asking to cancel changes the slot only. -/
theorem cancel_frame (r : Runner) : ∃ slot, r.cancel = { r with slot := slot } := by
  unfold Runner.cancel
  by_cases haccepts : r.acceptsCancel = true
  · rw [if_pos haccepts]
    exact ⟨_, rfl⟩
  · rw [if_neg haccepts]
    exact ⟨r.slot, rfl⟩

/-- **One action.** -/
theorem flight_act {a : Action} {flight : Option Nat} (hs : Flight s flight) (h : s.act a = some s') :
    ∃ flight', Flight s' flight' := by
  rcases act_cases h with ⟨id, q, -, rfl⟩ | ⟨-, rfl⟩ | ⟨n, c, m, r', st, -, hc, ht, rfl⟩
  · refine ⟨flight, hs.busy, ?_, ?_⟩
    · intro k c hk
      rcases getElem?_makeCall.mp hk with hk | ⟨rfl, rfl⟩
      · exact hs.live hk
      · -- the new call has not come in, and no flight has its number
        refine ⟨(nomatch ·), fun hflight => ?_⟩
        exact absurd (hs.known hflight) (Nat.lt_irrefl _)
    · intro k hk
      have hlt := hs.known hk
      show k < (s.calls ++ [_]).length
      rw [List.length_append]
      omega
  · obtain ⟨slot, hslot⟩ := cancel_frame s.runner
    rw [hslot]
    exact ⟨flight, hs.busy, hs.live, hs.known⟩
  · have hlt : n < s.calls.length := (List.getElem?_eq_some_iff.mp hc).1
    have hknown : ∀ {k}, k < s.calls.length → k < (s.calls.set n { c with stage := st }).length := by
      intro k hk
      rwa [List.length_set]
    rcases ht.door with ⟨hidle, hbusy, -, hin⟩ | ⟨hidle, hlive, hout⟩ | ⟨hbusy, hsame⟩
    · -- nobody was in, so the newcomer is the only one
      have hnone : flight = none := by
        rw [← Option.not_isSome_iff_eq_none, ← hs.busy, hidle]
        exact Bool.false_ne_true
      refine ⟨some n, hbusy, ?_, fun hk => hknown (Option.some.inj hk ▸ hlt)⟩
      intro k x hx
      rcases (getElem?_set_call hc).mp hx with ⟨rfl, rfl⟩ | ⟨hne, hx⟩
      · exact ⟨fun _ => rfl, fun _ => hin⟩
      · rw [hs.live hx, hnone]
        simp [Ne.symm hne]
    · -- the only one that was in goes
      have hflight : flight = some n := (hs.live hc).mp hlive
      refine ⟨none, hidle, ?_, fun hk => nomatch hk⟩
      intro k x hx
      rcases (getElem?_set_call hc).mp hx with ⟨rfl, rfl⟩ | ⟨hne, hx⟩
      · simp [hout]
      · rw [hs.live hx, hflight]
        simp [Ne.symm hne]
    · refine ⟨flight, hbusy.trans hs.busy, ?_, fun hk => hknown (hs.known hk)⟩
      intro k x hx
      rcases (getElem?_set_call hc).mp hx with ⟨rfl, rfl⟩ | ⟨-, hx⟩
      · show st.isLive = true ↔ _
        rw [hsame]
        exact hs.live hc
      · exact hs.live hx

/-- Nobody is in at the start. -/
theorem flight_start {r : Runner} (hr : r.busy = false) : Flight (Session.start r) none := by
  refine ⟨hr, ?_, ?_⟩
  · intro n c hc
    cases hc
  · intro n hn
    cases hn

/-- **One call at a time.** -/
theorem flight_run {r : Runner} (hr : r.busy = false) (h : (Session.start r).run actions = some s) :
    ∃ flight, Flight s flight := by
  refine run_invariant (I := fun s => ∃ flight, Flight s flight) ?_ h ⟨none, flight_start hr⟩
  rintro s a s' ⟨flight, hs⟩ ha
  exact flight_act hs ha

end LintPlan
