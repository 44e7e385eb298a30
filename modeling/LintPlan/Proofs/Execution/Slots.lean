import LintPlan.Proofs.Execution.Sessions

/-!
# The slot for requests to cancel

The slot is opened, closed and forgotten by the call that is in, in steps of their own, so what is in it follows from the
stage of that call.

* **`Stage.Holds`** — what the slot looks like while a call is at a stage.
* **`Transition.holds`** — the step lemma.
* **`slotted_run`** — in every session, the slot belongs to the call that is in, and is empty while nobody is in.
-/

namespace LintPlan

/-! ## §1 — one call

What the slot looks like in each stage of a call. -/

/-- What the slot looks like while call number `n` is at a stage; a call that is not in has no say in it. -/
def Stage.Holds (n : Nat) (slot : Option CancelSlot) : Stage → Prop
  | .arrived | .returned _ => True
  | .admitted | .reporting _ | .released _ => slot = none
  | .leaving _ => slot = none ∨ ∃ requested, slot = some ⟨n, requested, true⟩
  | .deaf _ => slot = none ∨ ∃ requested, slot = some ⟨n, requested, false⟩
  | _ => ∃ requested, slot = some ⟨n, requested, true⟩

variable {id : String} {q : RunRequest} {n : Nat} {r r' : Runner} {st st' : Stage} {m : Move}

/-- The call number in the slot is the one of the call that is in. -/
theorem Stage.Holds.owner_eq {slot : CancelSlot} (h : st.Holds n (some slot)) (hlive : st.isLive = true) :
    slot.owner = n := by
  cases st
  case arrived | returned => cases hlive
  case admitted | reporting | released => cases h
  case leaving | deaf =>
    obtain h | ⟨requested, h⟩ := h
    · cases h
    · cases h
      rfl
  all_goals
    obtain ⟨requested, h⟩ := h
    cases h
    rfl

/-- **The step lemma.** A call that comes in finds an empty slot. -/
theorem Transition.holds (h : Transition id q n r st m r' st') (hidle : r.busy = false → r.slot = none)
    (hst : st.Holds n r.slot) : st'.Holds n r'.slot := by
  cases h
  case turnedAway | ret => trivial
  case letIn hbusy => exact hidle hbusy
  case openSlot => exact ⟨false, rfl⟩
  case prepare hprepare | prepareFails hprepare =>
    obtain ⟨files, rfl⟩ := prepare_frame hprepare
    exact hst
  -- these leave without clearing the slot, so they take it along
  case answerNo | cancelCheck => exact .inr hst
  case clearSlot | release => exact rfl
  case report => exact .inl hst
  case stopListening =>
    obtain hnone | ⟨requested, hsome⟩ := hst
    · refine .inl ?_
      rw [Runner.stopListening, hnone]
      rfl
    · refine .inr ⟨requested, ?_⟩
      simp only [Runner.stopListening, hsome, Option.map_some, if_pos]
  all_goals exact hst

/-- The call that goes leaves an empty slot. -/
theorem Transition.slot_of_leaves (h : Transition id q n r st m r' st') (hst : st.Holds n r.slot)
    (hin : st.isLive = true) (hout : st'.isLive = false) : r'.slot = none := by
  cases h <;> cases hout
  case turnedAway => cases hin
  case ret => exact hst

/-- What asking to cancel does to the slot: a call that listens is asked. -/
theorem slot_cancel (r : Runner) :
    r.cancel.slot = r.slot.map fun slot => { slot with requested := slot.requested || slot.heard } := by
  unfold Runner.cancel Runner.acceptsCancel
  obtain ⟨setup, files, bus, acts, state, busy, slot⟩ := r
  cases slot with
  | none => rfl
  | some slot =>
    obtain ⟨owner, requested, heard⟩ := slot
    cases heard <;> cases requested <;> rfl

/-- A request does not change whose slot it is. -/
theorem holds_cancel (h : st.Holds n r.slot) : st.Holds n r.cancel.slot := by
  rw [slot_cancel]
  cases st
  case arrived | returned => trivial
  case admitted | reporting | released =>
    rw [show r.slot = none from h]
    rfl
  case leaving | deaf =>
    obtain h | ⟨requested, h⟩ := h <;> rw [h]
    · exact .inl rfl
    · exact .inr ⟨_, rfl⟩
  all_goals
    obtain ⟨requested, h⟩ := h
    rw [h]
    exact ⟨_, rfl⟩

/-! ## §2 — sessions

The slot of a session is that of the call that is in. -/

/-- The slot belongs to the call that is in, and is empty while nobody is in. -/
structure Slotted (s : Session) : Prop where
  empty : s.runner.busy = false → s.runner.slot = none
  holds : ∀ {n : Nat} {c : Call}, s.calls[n]? = some c → c.stage.isLive = true → c.stage.Holds n s.runner.slot

variable {s s' : Session} {actions : List Action}

/-- A call in the slot is in. -/
theorem Slotted.live {flight : Option Nat} (h : Slotted s) (hflight : Flight s flight) {slot : CancelSlot}
    (hslot : s.runner.slot = some slot) : ∃ c, s.calls[slot.owner]? = some c ∧ c.stage.isLive = true := by
  cases hf : flight with
  | none =>
    have hidle : s.runner.busy = false := by rw [hflight.busy, hf, Option.isSome_none]
    rw [h.empty hidle] at hslot
    cases hslot
  | some n =>
    obtain ⟨c, hc⟩ : ∃ c, s.calls[n]? = some c := ⟨_, List.getElem?_eq_getElem (hflight.known hf)⟩
    have hlive := (hflight.live hc).mpr hf
    have hholds := h.holds hc hlive
    rw [hslot] at hholds
    rw [hholds.owner_eq hlive]
    exact ⟨_, hc, hlive⟩

/-- **One action.** -/
theorem slotted_act {a : Action} {flight : Option Nat} (hflight : Flight s flight) (hs : Slotted s)
    (h : s.act a = some s') : Slotted s' := by
  rcases act_cases h with ⟨id, q, -, rfl⟩ | ⟨-, rfl⟩ | ⟨n, c, m, r', st, -, hc, ht, rfl⟩
  · refine ⟨hs.empty, ?_⟩
    intro k x hx hlive
    rcases getElem?_makeCall.mp hx with hx | ⟨-, rfl⟩
    · exact hs.holds hx hlive
    · cases hlive
  · obtain ⟨slot, hslot⟩ := cancel_frame s.runner
    refine ⟨?_, fun hx hlive => holds_cancel (hs.holds hx hlive)⟩
    intro hidle
    rw [hslot] at hidle
    show s.runner.cancel.slot = none
    rw [Runner.cancel, Runner.acceptsCancel, hs.empty hidle]
    exact hs.empty hidle
  · -- a call that begins finds the slot as it is; any other call that moves is the one that is in
    by_cases harrived : c.stage = .arrived
    · rw [harrived] at ht
      cases ht with
      | turnedAway =>
        refine ⟨hs.empty, ?_⟩
        intro k x hx hlive
        rcases (getElem?_set_call hc).mp hx with ⟨-, rfl⟩ | ⟨-, hx⟩
        · cases hlive
        · exact hs.holds hx hlive
      | letIn hidle =>
        refine ⟨nofun, ?_⟩
        intro k x hx hlive
        rcases (getElem?_set_call hc).mp hx with ⟨-, rfl⟩ | ⟨-, hx⟩
        · exact hs.empty hidle
        · -- nobody was in
          have hbusy := hflight.busy
          rw [(hflight.live hx).mp hlive, hidle] at hbusy
          cases hbusy
    · have hlive := ht.isLive harrived
      have hn := (hflight.live hc).mp hlive
      have hbusy : s.runner.busy = true := by rw [hflight.busy, hn, Option.isSome_some]
      have hholds := ht.holds (fun hidle => hs.empty hidle) (hs.holds hc hlive)
      refine ⟨?_, ?_⟩
      · intro hidle
        rcases ht.door with ⟨hfree, -⟩ | ⟨-, -, hout⟩ | ⟨hsame, -⟩
        · rw [hbusy] at hfree
          cases hfree
        · exact ht.slot_of_leaves (hs.holds hc hlive) hlive hout
        · rw [hsame, hbusy] at hidle
          cases hidle
      · intro k x hx hlive'
        rcases (getElem?_set_call hc).mp hx with ⟨rfl, rfl⟩ | ⟨hne, hx⟩
        · exact hholds
        · have hk := (hflight.live hx).mp hlive'
          exact absurd (Option.some.inj (hk.symm.trans hn)) hne

/-- **Every session.** -/
theorem slotted_run {r : Runner} (hbusy : r.busy = false) (hslot : r.slot = none)
    (h : (Session.start r).run actions = some s) : Slotted s := by
  have hboth : (∃ flight, Flight s flight) ∧ Slotted s := by
    refine run_invariant (I := fun s => (∃ flight, Flight s flight) ∧ Slotted s) ?_ h ?_
    · rintro s a s' ⟨⟨flight, hflight⟩, hs⟩ ha
      exact ⟨flight_act hflight ha, slotted_act hflight hs ha⟩
    · refine ⟨⟨none, flight_start hbusy⟩, fun _ => hslot, ?_⟩
      intro n c hc
      cases hc
  exact hboth.2

end LintPlan
