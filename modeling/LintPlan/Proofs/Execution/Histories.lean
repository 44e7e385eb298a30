import LintPlan.Proofs.Execution.Runs
import LintPlan.Proofs.Execution.Slots

/-!
# What happened before

A session only shows where its calls are now. Statements about what happened earlier – an answer came, a request was
accepted – are about moments: an action at the end of a part of the history.

* **`Moment`** — an action, with the sessions before and after it, at some time in a history; **`Moment.order`** compares two.
* **`run_history`** — what holds at the start and is kept by every action that is put to a history holds of every history.
* **`heeded_run`** — the slot says exactly whether a request to cancel the call that is in has been accepted.
-/

namespace LintPlan

/-! ## §1 — moments

A moment is an action of a history with the state before and after it. What happened once is said with moments. -/

variable {r : Runner} {actions before more : List Action} {s s' t : Session} {a : Action} {n : Nat}

/-- At some time in a history that starts with a runner, an action led from one session to another; `before` is what had
happened up to then. -/
structure Moment (r : Runner) (actions before : List Action) (s : Session) (a : Action) (s' : Session) : Prop where
  /-- The part of the history up to the action and with it. -/
  part : before ++ [a] <+: actions
  /-- Where what had happened led to. -/
  reached : (Session.start r).run before = some s
  /-- What the action did. -/
  act : s.act a = some s'

/-- A history and what follows it. -/
theorem run_append (s : Session) (actions more : List Action) :
    s.run (actions ++ more) = (s.run actions).bind (Session.run · more) := List.foldlM_append

theorem run_concat : s.run (actions ++ [a]) = some s' ↔ ∃ t, s.run actions = some t ∧ t.act a = some s' := foldlM_concat

/-- **The induction along a history.** -/
theorem run_history {I : List Action → Session → Prop} (hstart : I [] (Session.start r))
    (hact : ∀ {before s a s'}, (Session.start r).run before = some s → I before s → s.act a = some s' →
      I (before ++ [a]) s')
    (h : (Session.start r).run actions = some s) : I actions s := foldlM_history hstart hact h

theorem Moment.mono (h : Moment r actions before s a s') (hpart : actions <+: more) : Moment r more before s a s' :=
  ⟨h.part.trans hpart, h.reached, h.act⟩

theorem moment_last (h : (Session.start r).run actions = some s) (ha : s.act a = some s') :
    Moment r (actions ++ [a]) actions s a s' :=
  ⟨List.prefix_refl _, h, ha⟩

/-- A moment of a longer history is the last one, or one of the history before. -/
theorem Moment.cases_concat {last : Action} (h : Moment r (actions ++ [last]) before s a s') :
    before = actions ∧ a = last ∨ Moment r actions before s a s' := by
  rcases List.prefix_concat_iff.mp h.part with heq | hpart
  · obtain ⟨rfl, hlast⟩ := List.append_inj' heq rfl
    exact .inl ⟨rfl, List.singleton_inj.mp hlast⟩
  · exact .inr ⟨hpart, h.reached, h.act⟩

/-- What happened at a moment of a history that led to a session, when the history goes on: the session before the last
action is the one that the history led to. -/
theorem Moment.eq_of_last (h : Moment r (actions ++ [a]) actions t a s') (hs : (Session.start r).run actions = some s) :
    t = s :=
  Option.some.inj (h.reached.symm.trans hs)

/-- After a moment a history goes on to its end. -/
theorem Moment.rest (h : Moment r actions before s a s') (hrun : (Session.start r).run actions = some t) :
    ∃ rest, s'.run rest = some t := by
  obtain ⟨rest, rfl⟩ := h.part
  have hupto : (Session.start r).run (before ++ [a]) = some s' := run_concat.mpr ⟨s, h.reached, h.act⟩
  rw [run_append, hupto] at hrun
  exact ⟨rest, hrun⟩

/-- **Of two moments of a history, one is before the other**, unless they are the same. -/
theorem Moment.order {before₁ before₂ : List Action} {s₁ s₂ s₁' s₂' : Session} {a₁ a₂ : Action}
    (h₁ : Moment r actions before₁ s₁ a₁ s₁') (h₂ : Moment r actions before₂ s₂ a₂ s₂') :
    s₁ = s₂ ∧ a₁ = a₂ ∨ Moment r before₂ before₁ s₁ a₁ s₁' ∨ Moment r before₁ before₂ s₂ a₂ s₂' := by
  -- one of the two parts of the history is a part of the other
  rcases List.prefix_or_prefix_of_prefix h₁.part h₂.part with hpart | hpart
  · rcases List.prefix_concat_iff.mp hpart with heq | hpart
    · obtain ⟨rfl, hlast⟩ := List.append_inj' heq rfl
      exact .inl ⟨Option.some.inj (h₁.reached.symm.trans h₂.reached), List.singleton_inj.mp hlast⟩
    · exact .inr (.inl ⟨hpart, h₁.reached, h₁.act⟩)
  · rcases List.prefix_concat_iff.mp hpart with heq | hpart
    · obtain ⟨rfl, hlast⟩ := List.append_inj' heq rfl
      exact .inl ⟨Option.some.inj (h₁.reached.symm.trans h₂.reached), (List.singleton_inj.mp hlast).symm⟩
    · exact .inr (.inr ⟨hpart, h₂.reached, h₂.act⟩)

theorem not_moment_nil : ¬ Moment r [] before s a s' := by
  intro h
  have hlen := h.part.length_le
  simp at hlen

/-! ## §2 — accepted requests

A request counts for the call that is in, and its slot remembers it. -/

/-- Would a request to cancel be accepted now, and for the call with this number? -/
def Session.Accepts (s : Session) (n : Nat) : Prop :=
  s.runner.acceptsCancel = true ∧ ∃ c, s.calls[n]? = some c ∧ c.stage.isLive = true

/-- In a history, a request to cancel was accepted while the call with this number was in. -/
def Asked (r : Runner) (actions : List Action) (n : Nat) : Prop :=
  ∃ before s s', Moment r actions before s .cancel s' ∧ s.Accepts n

theorem Asked.mono (h : Asked r actions n) (hpart : actions <+: more) : Asked r more n := by
  obtain ⟨before, s, s', hmoment, haccepts⟩ := h
  exact ⟨before, s, s', hmoment.mono hpart, haccepts⟩

/-- One more action is a request for a call only if it is accepted for this call. -/
theorem asked_concat (hs : (Session.start r).run actions = some s) (ha : s.act a = some s') :
    Asked r (actions ++ [a]) n ↔ Asked r actions n ∨ a = .cancel ∧ s.Accepts n := by
  constructor
  · rintro ⟨before, t, t', hmoment, haccepts⟩
    rcases hmoment.cases_concat with ⟨rfl, rfl⟩ | hearlier
    · obtain rfl := hmoment.eq_of_last hs
      exact .inr ⟨rfl, haccepts⟩
    · exact .inl ⟨before, t, t', hearlier, haccepts⟩
  · rintro (hearlier | ⟨rfl, haccepts⟩)
    · exact hearlier.mono (List.prefix_append _ _)
    · exact ⟨actions, s, s', moment_last hs ha, haccepts⟩

/-- Is a call at a stage at which it cannot be asked to cancel yet? -/
def Stage.isEarly : Stage → Bool
  | .arrived | .admitted => true
  | _ => false

/-- In a session that a history leads to, the slot tells whether its call has been asked to cancel, and calls that cannot
be asked yet have not been asked. -/
structure Heeded (r : Runner) (before : List Action) (s : Session) : Prop where
  early : ∀ {n : Nat}, (∀ c, s.calls[n]? = some c → c.stage.isEarly = true) → ¬ Asked r before n
  slot : ∀ {slot : CancelSlot}, s.runner.slot = some slot → (slot.requested = true ↔ Asked r before slot.owner)

/-- Where what a transition leaves in the slot comes from. -/
theorem Transition.slot_cases {id : String} {q : RunRequest} {r r' : Runner} {st st' : Stage} {m : Move}
    {slot' : CancelSlot} (h : Transition id q n r st m r' st') (hslot : r'.slot = some slot') :
    st = .admitted ∧ slot' = ⟨n, false, true⟩ ∨
      ∃ slot, r.slot = some slot ∧ slot'.owner = slot.owner ∧ slot'.requested = slot.requested := by
  cases h
  case openSlot =>
    cases hslot
    exact .inl ⟨rfl, rfl⟩
  case prepare hprepare | prepareFails hprepare =>
    obtain ⟨files, rfl⟩ := prepare_frame hprepare
    exact .inr ⟨slot', hslot, rfl, rfl⟩
  case clearSlot | release => cases hslot
  case stopListening =>
    obtain ⟨slot, hold, rfl⟩ := Option.map_eq_some_iff.mp hslot
    refine .inr ⟨slot, hold, ?_⟩
    split <;> exact ⟨rfl, rfl⟩
  all_goals exact .inr ⟨slot', hslot, rfl, rfl⟩

theorem Transition.isEarly_of {id : String} {q : RunRequest} {r r' : Runner} {st st' : Stage} {m : Move}
    (h : Transition id q n r st m r' st') (hearly : st'.isEarly = true) : st.isEarly = true := by
  cases h <;> cases hearly
  rfl

/-- **One action.** -/
theorem heeded_act {flight : Option Nat} (hflight : Flight s flight) (hslotted : Slotted s)
    (hs : (Session.start r).run before = some s) (h : Heeded r before s) (ha : s.act a = some s') :
    Heeded r (before ++ [a]) s' := by
  -- who has been asked after the action: who was before, or whom it asks
  have hasked := fun n => asked_concat (n := n) hs ha
  rcases act_cases ha with ⟨id, q, rfl, rfl⟩ | ⟨rfl, rfl⟩ | ⟨n, c, m, r', st, rfl, hc, ht, rfl⟩
  · refine ⟨?_, ?_⟩
    · intro k hearly
      rw [hasked]
      rintro (hbefore | ⟨hcall, -⟩)
      · exact h.early (fun x hx => hearly x (getElem?_makeCall.mpr (.inl hx))) hbefore
      · cases hcall
    · intro slot hslot
      rw [hasked, h.slot hslot]
      simp
  · refine ⟨?_, ?_⟩
    · intro k hearly
      rw [hasked]
      rintro (hbefore | ⟨-, haccepts, x, hx, hlive⟩)
      · exact h.early hearly hbefore
      · -- a call that is in and cannot be asked yet has no slot
        have hholds := hslotted.holds hx hlive
        have hxearly := hearly x hx
        cases hstage : x.stage <;> rw [hstage] at hxearly hlive hholds <;> cases hxearly
        · cases hlive
        · rw [Runner.acceptsCancel, show s.runner.slot = none from hholds] at haccepts
          cases haccepts
    · intro slot' hslot'
      have hmap : s.runner.cancel.slot = some slot' := hslot'
      rw [slot_cancel] at hmap
      obtain ⟨slot, hslot, rfl⟩ := Option.map_eq_some_iff.mp hmap
      have haccepts : s.Accepts slot.owner ↔ slot.heard = true := by
        rw [Session.Accepts, Runner.acceptsCancel, hslot]
        exact and_iff_left (hslotted.live hflight hslot)
      rw [hasked, ← h.slot hslot, haccepts]
      simp
  · refine ⟨?_, ?_⟩
    · intro k hearly
      rw [hasked]
      rintro (hbefore | ⟨hcancel, -⟩)
      · refine h.early (n := k) ?_ hbefore
        intro x hx
        by_cases hk : k = n
        · subst hk
          obtain rfl : c = x := Option.some.inj (hc.symm.trans hx)
          exact ht.isEarly_of (hearly _ ((getElem?_set_call hc).mpr (.inl ⟨rfl, rfl⟩)))
        · exact hearly x ((getElem?_set_call hc).mpr (.inr ⟨hk, hx⟩))
      · cases hcancel
    · intro slot' hslot'
      rw [hasked]
      rcases ht.slot_cases hslot' with ⟨hadmitted, rfl⟩ | ⟨slot, hslot, howner, hrequested⟩
      · -- a fresh slot is empty, and its call has not been asked before
        have hnot : ¬ Asked r before n := by
          refine h.early ?_
          intro x hx
          obtain rfl : c = x := Option.some.inj (hc.symm.trans hx)
          rw [hadmitted]
          rfl
        simp [hnot]
      · rw [hrequested, howner, h.slot hslot]
        simp

/-- **The slot tells whether the call that is in has been asked to cancel.** -/
theorem heeded_run (hbusy : r.busy = false) (hslot : r.slot = none) (h : (Session.start r).run actions = some s) :
    Heeded r actions s := by
  refine run_history (I := Heeded r) ?_ ?_ h
  · refine ⟨?_, ?_⟩
    · rintro n - ⟨before, t, t', hmoment, -⟩
      exact not_moment_nil hmoment
    · intro slot hsome
      have hnone : some slot = none := hsome.symm.trans hslot
      cases hnone
  · intro before t a t' ht hheeded ha
    obtain ⟨flight, hflight⟩ := flight_run hbusy ht
    exact heeded_act hflight (slotted_run hbusy hslot ht) ht hheeded ha

end LintPlan
