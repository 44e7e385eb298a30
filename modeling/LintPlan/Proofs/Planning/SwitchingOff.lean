import LintPlan.Proofs.Planning.Partition

/-!
# Switching off, name by name

Names may be switched off in any order and any number of times, known or not. Where a name stands before decides what the
call does:

* **`disable_cases`** — a name that is on moves, a name that is off stays where it is, and a name that the set does not know
  is put behind those that are off.
* **`nodup_names_disableAll`** — so no run of calls ever lists a name twice.
* **`disableAll_exact`** — the two lists behind a run of calls, and when it only moved names. A call for a name that is not
  on changes nothing if and only if the name is listed as off; `unknown_name_listed` is the other case.
-/

namespace LintPlan.LinterSet

variable {s : LinterSet} {name : String} {ns : List String}

/-! ## §1 — one call

Everything that one call does. -/

theorem disable_of_not_isOn (hon : name ∉ s.enabledNames) :
    s.disable name = { s with disabled := addDisabled s.disabled name } := by
  have hkeep : s.enabled.eraseP (·.name == name) = s.enabled := by
    apply List.eraseP_of_forall_not
    intro l hl heq
    exact hon (List.mem_map.2 ⟨l, hl, by simpa using heq⟩)
  simp [disable, hkeep]

/-- A call for a name that is not on is idle exactly if the name is listed as off. -/
theorem disable_eq_self_iff (hon : name ∉ s.enabledNames) : s.disable name = s ↔ name ∈ s.disabled := by
  rw [disable_of_not_isOn hon]
  constructor
  · intro h
    have hoff : addDisabled s.disabled name = s.disabled := congrArg LinterSet.disabled h
    rw [← hoff]
    exact mem_addDisabled.2 (.inr rfl)
  · intro hoff
    simp [addDisabled, hoff]

/-- **What one call does** to a set in which no name stands twice. -/
theorem disable_cases (h : s.names.Nodup) (name : String) :
    (name ∈ s.enabledNames ∧ (s.disable name).names.Perm s.names) ∨
      (name ∈ s.disabled ∧ s.disable name = s) ∨
      (name ∉ s.names ∧ (s.disable name).names = s.names ++ [name]) := by
  by_cases hon : name ∈ s.enabledNames
  · exact .inl ⟨hon, names_disable_perm hon (not_mem_disabled_of_nodup h hon)⟩
  by_cases hoff : name ∈ s.disabled
  · exact .inr (.inl ⟨hoff, (disable_eq_self_iff hon).2 hoff⟩)
  · refine .inr (.inr ⟨by simp [names, hon, hoff], ?_⟩)
    rw [disable_of_not_isOn hon]
    show s.enabledNames ++ addDisabled s.disabled name = s.enabledNames ++ s.disabled ++ [name]
    simp [addDisabled, hoff]

theorem nodup_names_disable (h : s.names.Nodup) (name : String) : (s.disable name).names.Nodup := by
  obtain ⟨-, hmove⟩ | ⟨-, hsame⟩ | ⟨hnew, hadd⟩ := disable_cases h name
  · exact hmove.nodup_iff.2 h
  · rwa [hsame]
  · rw [hadd]
    exact (List.perm_append_singleton name s.names).nodup_iff.2 (List.nodup_cons.2 ⟨hnew, h⟩)

/-! ## §2 — any run of calls

By induction over the calls, what they do together. -/

theorem nodup_names_disableAll (h : s.names.Nodup) (ns : List String) : (s.disableAll ns).names.Nodup := by
  induction ns generalizing s with
  | nil => exact h
  | cons name ns ih => exact ih (nodup_names_disable h name)

/-- No call touches the rules. -/
theorem disableAll_customRules (s : LinterSet) (ns : List String) : (s.disableAll ns).customRules = s.customRules := by
  induction ns generalizing s with
  | nil => rfl
  | cons name ns ih => exact ih (s.disable name)

/-- Those that were off come first, then the others that were called for, each at its first call. -/
theorem disableAll_disabled (s : LinterSet) (ns : List String) :
    (s.disableAll ns).disabled = s.disabled ++ (ns.filter fun n => !s.disabled.contains n).eraseDups := by
  induction ns generalizing s with
  | nil => simp [disableAll]
  | cons name ns ih =>
    show ((s.disable name).disableAll ns).disabled = _
    rw [ih]
    show addDisabled s.disabled name ++ (ns.filter fun n => !(addDisabled s.disabled name).contains n).eraseDups = _
    by_cases hoff : name ∈ s.disabled
    · simp [addDisabled, hoff]
    · -- from here on the name is among those that are off, so that later calls for it do not count
      have hlater : (ns.filter fun n => !(s.disabled ++ [name]).contains n) =
          (ns.filter fun n => !s.disabled.contains n).filter fun n => !n == name := by
        rw [List.filter_filter]
        apply List.filter_congr
        intro n _
        by_cases hn : n = name <;> simp [hn]
      have hadd : addDisabled s.disabled name = s.disabled ++ [name] := if_neg (by simpa using hoff)
      rw [hadd, hlater, List.filter_cons_of_pos (by simpa using hoff), List.eraseDups_cons, List.append_assoc,
        List.singleton_append]

/-- A run of calls keeps the names as they are if and only if it calls for no other ones. -/
theorem names_disableAll_perm_iff (h : s.names.Nodup) :
    (s.disableAll ns).names.Perm s.names ↔ ∀ n ∈ ns, n ∈ s.names := by
  rw [List.perm_ext_iff_of_nodup (nodup_names_disableAll h ns) h]
  constructor
  · intro hsame n hn
    exact (hsame n).1 (mem_names_disableAll.2 (.inr hn))
  · intro hknown n
    rw [mem_names_disableAll, or_iff_left_of_imp (hknown n)]

/-- What a set has come to after calls for some names. -/
structure SwitchedOff (s : LinterSet) (ns : List String) (t : LinterSet) : Prop where
  /-- The linters that nobody called for are on, in their order. -/
  enabled : t.enabled = s.enabled.filter fun l => !ns.contains l.name
  /-- Whatever was called for is off, behind what was off before. -/
  disabled : t.disabled = s.disabled ++ (ns.filter fun n => !s.disabled.contains n).eraseDups
  customRules : t.customRules = s.customRules
  nodup_enabledNames : t.enabledNames.Nodup
  nodup_disabled : t.disabled.Nodup
  disjoint : t.enabledNames.Disjoint t.disabled
  /-- No name is lost, and none comes in but those that were called for. -/
  mem_names : ∀ n, n ∈ t.names ↔ n ∈ s.names ∨ n ∈ ns
  /-- Names were moved and nothing else, if and only if the set knew all of them. -/
  moved_iff : t.names.Perm s.names ↔ ∀ n ∈ ns, n ∈ s.names
  /-- One more call for a name that is not on changes nothing if and only if the name is listed as off. -/
  idle_iff : ∀ name, name ∉ t.enabledNames → (t.disable name = t ↔ name ∈ t.disabled)

/-- **Switching off moves names, and lists those that the set does not know.** -/
theorem disableAll_exact (s : LinterSet) (ns : List String) (hon : s.enabledNames.Nodup) (hoff : s.disabled.Nodup)
    (hapart : s.enabledNames.Disjoint s.disabled) : SwitchedOff s ns (s.disableAll ns) := by
  have h : s.names.Nodup := List.nodup_append.2 ⟨hon, hoff, fun a ha b hb hab => hapart ha (hab ▸ hb)⟩
  obtain ⟨hon', hoff', hapart'⟩ := List.nodup_append.1 (nodup_names_disableAll h ns)
  exact {
    enabled := disableAll_enabled hon ns
    disabled := disableAll_disabled s ns
    customRules := disableAll_customRules s ns
    nodup_enabledNames := hon'
    nodup_disabled := hoff'
    disjoint := fun n hn hn' => hapart' n hn n hn' rfl
    mem_names := fun n => mem_names_disableAll
    moved_iff := names_disableAll_perm_iff h
    idle_iff := fun _ => disable_eq_self_iff }

/-- A set with two linters on and one name off. -/
def threeNames : LinterSet where
  enabled := ["eslint", "prettier"].map fun name => ⟨name, none, .quality, .warning, true, [], ["**/*"], []⟩
  disabled := ["standard"]
  customRules := []

/-- Calls for a name that is on, one that is off, one that the set does not know, and the first again. -/
theorem disableAll_exact_fourCalls :
    threeNames.enabledNames.Nodup ∧ threeNames.disabled.Nodup ∧ threeNames.enabledNames.Disjoint threeNames.disabled ∧
      SwitchedOff threeNames ["eslint", "standard", "ruff", "eslint"]
        (threeNames.disableAll ["eslint", "standard", "ruff", "eslint"]) := by
  have hon : threeNames.enabledNames.Nodup := by decide
  have hoff : threeNames.disabled.Nodup := by decide
  have hapart : threeNames.enabledNames.Disjoint threeNames.disabled := List.disjoint_left.2 (by decide)
  exact ⟨hon, hoff, hapart, disableAll_exact threeNames _ hon hoff hapart⟩

/-- **A name that is neither on nor off is not left alone:** a call for it lists it as off. -/
theorem unknown_name_listed :
    threeNames.enabledNames.Nodup ∧ threeNames.disabled.Nodup ∧ threeNames.enabledNames.Disjoint threeNames.disabled ∧
      "ruff" ∉ threeNames.enabledNames ∧ threeNames.disable "ruff" ≠ threeNames ∧
      "ruff" ∉ threeNames.names ∧ "ruff" ∈ (threeNames.disable "ruff").names :=
  ⟨by decide, by decide, List.disjoint_left.2 (by decide), by decide, by decide, by decide, by decide⟩

end LintPlan.LinterSet
