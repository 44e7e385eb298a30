import Mathlib.Data.List.Induction

/-!
# Runs

Sessions, their feeds and their clocks are run in one way: action after action, each of which may be impossible. What holds of
all such runs is proved here, for any kind of state and action.

* **`foldlM_concat`** — the last action of a run.
* **`foldlM_history`** — what holds at the start and is kept by every action holds of every run, with its history.
* **`outputs`** — what the actions of a run bring forth, one after the other.
-/

namespace LintPlan

variable {σ α β : Type} {step : σ → α → Option σ} {s s' t : σ} {actions : List α} {a : α}

theorem foldlM_concat :
    (actions ++ [a]).foldlM step s = some s' ↔ ∃ t, actions.foldlM step s = some t ∧ step t a = some s' := by
  have hone : ∀ t, [a].foldlM step t = step t a := fun t => bind_pure (step t a)
  have happend : (actions ++ [a]).foldlM step s = (actions.foldlM step s).bind fun t => [a].foldlM step t :=
    List.foldlM_append
  rw [happend, Option.bind_eq_some_iff]
  simp only [hone]

theorem foldlM_cons : (a :: actions).foldlM step s = some s' ↔ ∃ t, step s a = some t ∧ actions.foldlM step t = some s' :=
  Option.bind_eq_some_iff

/-- **The induction along a history.** -/
theorem foldlM_history {I : List α → σ → Prop} (hstart : I [] s)
    (hact : ∀ {before t a t'}, before.foldlM step s = some t → I before t → step t a = some t' → I (before ++ [a]) t')
    (h : actions.foldlM step s = some s') : I actions s' := by
  -- from the end, as what is known of a state depends on everything that led to it
  induction actions using List.reverseRecOn generalizing s' with
  | nil =>
    cases h
    exact hstart
  | append_singleton actions a ih =>
    obtain ⟨t, ht, ha⟩ := foldlM_concat.mp h
    exact hact ht (ih ht) ha

/-- What actions bring forth, as long as they are possible. -/
def outputs (step : σ → α → Option σ) (output : σ → α → σ → List β) (s : σ) : List α → List β
  | [] => []
  | a :: rest =>
    match step s a with
    | some next => output s a next ++ outputs step output next rest
    | none => []

/-- What one more action brings forth comes last. -/
theorem outputs_concat {output : σ → α → σ → List β} (h : actions.foldlM step s = some t) (ha : step t a = some s') :
    outputs step output s (actions ++ [a]) = outputs step output s actions ++ output t a s' := by
  induction actions generalizing s with
  | nil =>
    obtain rfl : s = t := Option.some.inj h
    show outputs step output s [a] = output s a s'
    rw [outputs, ha]
    exact List.append_nil _
  | cons first rest ih =>
    obtain ⟨next, hfirst, hrest⟩ := foldlM_cons.mp h
    rw [List.cons_append, outputs, outputs, hfirst]
    dsimp only
    rw [ih hrest, List.append_assoc]

end LintPlan
