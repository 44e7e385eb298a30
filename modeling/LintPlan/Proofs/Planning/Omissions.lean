import LintPlan.Proofs.Planning.Names
import LintPlan.Proofs.Planning.Rivals

/-!
# Why candidates are left out

Rivals are told apart before preferences count. So a candidate can be off for the sake of a rival that preferences switch off
later, and then neither of the two is on. This is the only way in which a reason can be outlived:

* **`exists_rival_of_not_mem_selected`** — a candidate that is not chosen has a rival that is.
* **`exists_rival_of_not_mem_firstWins`** — a wanted linter that is off in the end has a rival that is on.
* **`plan_omissions`** — why candidates are off: preferences are against them, or a rival is on, or preferences are against
  the rival that was chosen in their place.
* **`rival_of_excluded_stays_off`** — the last of these cases occurs.
-/

namespace LintPlan.Planning

/-- Are preferences against a linter? -/
inductive Unwanted (prefs : Preferences) (l : Linter) : Prop where
  | excluded (h : l.name ∈ prefs.excludedLinters)
  | notPreferred (hany : prefs.preferredLinters ≠ []) (h : l.name ∉ prefs.preferredLinters)
  | tooMild (h : l.severity < prefs.severityThreshold)

variable {p q : Profile} {prefs : Preferences} {k l : Linter} {n : String}

/-! ## §1 — linters of one name

Linters of one name come from one tool and agree in what preferences look at. -/

/-- A name tells the template that a candidate comes from. -/
theorem severity_eq_of_name_eq (hk : k ∈ candidates p) (hl : l ∈ candidates q) (h : k.name = l.name) :
    k.severity = l.severity := by
  obtain ⟨t, ht, language, rfl⟩ := exists_bind_of_mem_candidates hk
  obtain ⟨u, hu, language', rfl⟩ := exists_bind_of_mem_candidates hl
  have htu : t = u := Catalog.eq_of_name_eq ht hu h
  rw [htu]
  rfl

theorem isWanted_eq_of_name_eq (hk : k ∈ candidates p) (hl : l ∈ candidates q) (h : k.name = l.name) :
    isWanted prefs k = isWanted prefs l := by
  rw [isWanted, isWanted, h, severity_eq_of_name_eq hk hl h]

/-- A linter is unwanted for one of three reasons. -/
theorem isWanted_eq_false_iff : isWanted prefs l = false ↔ Unwanted prefs l := by
  have hmild : ¬ prefs.severityThreshold ≤ l.severity ↔ l.severity < prefs.severityThreshold := Nat.not_le
  simp only [isWanted, Bool.and_eq_false_iff, Bool.or_eq_false_iff, Bool.not_eq_false', List.contains_eq_mem,
    decide_eq_true_eq, decide_eq_false_iff_not, hmild, List.isEmpty_eq_false_iff]
  constructor
  · rintro ((⟨hany, hout⟩ | hin) | hlow)
    · exact .notPreferred hany hout
    · exact .excluded hin
    · exact .tooMild hlow
  · rintro (hin | ⟨hany, hout⟩ | hlow)
    · exact .inl (.inr hin)
    · exact .inl (.inl ⟨hany, hout⟩)
    · exact .inr hlow

/-! ## §2 — candidates that are not chosen

A candidate that is not chosen has a rival that is. -/

/-- Dropping repeats leaves out linters and changes none. -/
theorem firstOfEachFrom_sublist (seen : List String) (ls : List Linter) : (firstOfEachFrom seen ls).Sublist ls := by
  induction ls generalizing seen with
  | nil => exact List.Sublist.refl _
  | cons l ls ih =>
    rw [firstOfEachFrom]
    split
    · exact (ih seen).cons l
    · exact (ih _).cons_cons l

theorem mem_candidates_of_mem_selected (h : l ∈ (selected p).enabled) : l ∈ candidates p := by
  rw [selected, withoutConflicts_enabled] at h
  exact (firstOfEachFrom_sublist [] _).subset ((firstWinsFrom_sublist [] _).subset h)

/-- **A candidate that is not chosen has a rival that is.** -/
theorem exists_rival_of_not_mem_selected (hn : n ∈ (candidates p).map (·.name)) (hoff : n ∉ (selected p).enabledNames) :
    ∃ k ∈ (selected p).enabled, Catalog.conflicts k.name n = true := by
  obtain ⟨l, hl, rfl⟩ := List.mem_map.1
    (mem_firstOfEachFrom_names.2 ⟨hn, List.not_mem_nil⟩ : n ∈ (firstOfEachFrom [] (candidates p)).map (·.name))
  rw [LinterSet.enabledNames, selected, withoutConflicts_enabled] at hoff
  obtain ⟨m, hm, hc⟩ := exists_conflict_of_not_mem_firstWinsFrom hl hoff
  obtain ⟨k, hk, rfl⟩ := List.mem_map.1 hm
  rw [selected, withoutConflicts_enabled]
  exact ⟨k, hk, hc⟩

/-! ## §3 — wanted linters that are off in the end

Required linters come in late and may displace what was wanted. -/

/-- **A wanted linter is off in the end only for a rival that is on.** A required rival may displace it; that one is on,
because its only rival would be the linter that it displaced. -/
theorem exists_rival_of_not_mem_firstWins {required kept : List String} (hfree : ConflictFree kept) (hn : n ∈ kept)
    (hoff : n ∉ firstWins (withRequired required kept)) :
    ∃ m ∈ firstWins (withRequired required kept), Catalog.conflicts m n = true := by
  have hskipped : ∀ x ∈ withRequired required kept, x ∉ firstWins (withRequired required kept) →
      ∃ m ∈ firstWins (withRequired required kept), Catalog.conflicts m x = true := by
    intro x hx hxoff
    have hskip : id x ∉ (firstWinsFrom id [] (withRequired required kept)).map id := by
      rw [List.map_id]
      exact hxoff
    obtain ⟨m, hm, hc⟩ := exists_conflict_of_not_mem_firstWinsFrom hx hskip
    rw [List.nil_append, List.map_id] at hm
    exact ⟨m, hm, hc⟩
  by_cases hin : n ∈ withRequired required kept
  · exact hskipped n hin hoff
  · -- `n` was displaced by a required rival
    obtain ⟨r, hr, hc⟩ : ∃ r ∈ required, Catalog.conflicts n r = true := by
      have hdisplaced : ¬(required.contains n || !required.any (Catalog.conflicts n)) = true :=
        fun hstay => hin (List.mem_append_left _ (List.mem_filter.2 ⟨hn, hstay⟩))
      rw [Bool.or_eq_true, Bool.not_eq_true', not_or, Bool.not_eq_false] at hdisplaced
      exact List.any_eq_true.1 hdisplaced.2
    have hrkept : r ∉ kept := by
      intro hrk
      rw [hfree.conflicts_eq_false hn hrk] at hc
      cases hc
    have hrin : r ∈ withRequired required kept :=
      List.mem_append_right _ (List.mem_eraseDups.2 (mem_missing.2 ⟨hr, hrkept⟩))
    rw [Catalog.conflicts_comm] at hc
    by_cases hron : r ∈ firstWins (withRequired required kept)
    · exact ⟨r, hron, hc⟩
    · obtain ⟨m, hm, hmc⟩ := hskipped r hrin hron
      rw [Catalog.conflicts_comm] at hmc
      exact absurd (Catalog.rival_unique hmc hc ▸ hm) hoff

/-! ## §4 — the reasons

Every candidate that is off in a plan has a reason of the list. -/

theorem wantedNames_conflictFree (p : Profile) (prefs : Preferences) :
    ConflictFree (((selected p).enabled.filter (isWanted prefs)).map (·.name)) :=
  (selected_conflictFree p).sublist (List.filter_sublist.map _)

/-- **Why candidates are off.** Preferences are against the candidate, or a rival of it is on, or preferences are against
the rival that was chosen in its place. -/
theorem plan_omissions (p : Profile) (prefs : Preferences) :
    ∃ c, plan p prefs = .ok c ∧ ∀ l ∈ candidates p, l.name ∉ c.linters.enabledNames →
      Unwanted prefs l ∨ (∃ n ∈ c.linters.enabledNames, Catalog.conflicts n l.name = true) ∨
        ∃ k ∈ (selected p).enabled, Catalog.conflicts k.name l.name = true ∧ Unwanted prefs k := by
  refine ⟨optimized (separatedDraft p prefs), plan_eq_ok p prefs, ?_⟩
  show ∀ l ∈ candidates p, l.name ∉ (separatedDraft p prefs).linters.enabledNames → Unwanted prefs l ∨
    (∃ n ∈ (separatedDraft p prefs).linters.enabledNames, Catalog.conflicts n l.name = true) ∨ _
  rw [enabledNames_separatedDraft]
  generalize hon : firstWins (withRequired prefs.requiredLinters
    (((selected p).enabled.filter (isWanted prefs)).map (·.name))) = on
  -- a linter that was chosen is off because it is not wanted, or for a rival that is on
  have hchosen : ∀ k ∈ (selected p).enabled, k.name ∉ on →
      Unwanted prefs k ∨ ∃ n ∈ on, Catalog.conflicts n k.name = true := by
    intro k hk hoff
    by_cases hwanted : isWanted prefs k = true
    · have hin : k.name ∈ ((selected p).enabled.filter (isWanted prefs)).map (·.name) :=
        List.mem_map_of_mem (List.mem_filter.2 ⟨hk, hwanted⟩)
      rw [← hon] at hoff ⊢
      exact .inr (exists_rival_of_not_mem_firstWins (wantedNames_conflictFree p prefs) hin hoff)
    · exact .inl (isWanted_eq_false_iff.1 (eq_false_of_ne_true hwanted))
  intro l hl hoff
  by_cases hsel : l.name ∈ (selected p).enabledNames
  · obtain ⟨k, hk, hname⟩ := List.mem_map.1 hsel
    rcases hchosen k hk (hname ▸ hoff) with hunwanted | ⟨n, hn, hc⟩
    · have hsame : isWanted prefs k = isWanted prefs l :=
        isWanted_eq_of_name_eq (mem_candidates_of_mem_selected hk) hl hname
      exact .inl (isWanted_eq_false_iff.1 (hsame ▸ isWanted_eq_false_iff.2 hunwanted))
    · exact .inr (.inl ⟨n, hn, hname ▸ hc⟩)
  · obtain ⟨k, hk, hc⟩ := exists_rival_of_not_mem_selected (List.mem_map_of_mem hl) hsel
    by_cases hkon : k.name ∈ on
    · exact .inr (.inl ⟨k.name, hkon, hc⟩)
    · rcases hchosen k hk hkon with hunwanted | ⟨n, hn, hnc⟩
      · exact .inr (.inr ⟨k, hk, hc, hunwanted⟩)
      · -- the rival that is on would be the candidate itself
        rw [Catalog.conflicts_comm] at hnc
        exact absurd (Catalog.rival_unique hnc hc ▸ hn) hoff

/-- A simple repository in one language. -/
def plainProfile (l : Language) : Profile where
  primary := [l]
  secondary := []
  languages := [⟨l, 3, 30⟩]
  frameworks := []
  buildTools := []
  configFiles := []
  complexity := .simple
  confidence := Signals.confidence ⟨1, 0, 0, 0⟩
  stats := ⟨3, 0, 1, 30⟩
  warnings := []

/-- Preferences against one formatter, with a linter required that is the rival of another one. -/
def strictStyle : Preferences :=
  { Preferences.standard with
    excludedLinters := ["black"]
    standards := some ⟨["ruff"], []⟩ }

/-- A linter that is displaced by a required one. -/
theorem plan_omissions_displaced : ∃ c, plan (plainProfile .python) strictStyle = .ok c ∧
    ∃ l ∈ candidates (plainProfile .python), l.name = "flake8" ∧ l.name ∉ c.linters.enabledNames ∧
      (Unwanted strictStyle l ∨ (∃ n ∈ c.linters.enabledNames, Catalog.conflicts n l.name = true) ∨
        ∃ k ∈ (selected (plainProfile .python)).enabled, Catalog.conflicts k.name l.name = true ∧
          Unwanted strictStyle k) := by
  obtain ⟨c, hplan, hreasons⟩ := plan_omissions (plainProfile .python) strictStyle
  have hc : c = optimized (separatedDraft (plainProfile .python) strictStyle) := by
    rw [plan_eq_ok] at hplan
    exact (Except.ok.inj hplan).symm
  obtain ⟨l, hl, hname⟩ := List.mem_map.1
    (by decide : "flake8" ∈ (candidates (plainProfile .python)).map (·.name))
  have hoff : l.name ∉ c.linters.enabledNames := by
    rw [hname, hc]
    decide +kernel
  exact ⟨c, hplan, l, hl, hname, hoff, hreasons l hl hoff⟩

/-- **The rival of an excluded linter stays off.** The formatter that stands first is excluded; its rival was left out for
its sake, nothing else is against the rival, and it is off all the same. -/
theorem rival_of_excluded_stays_off :
    let prefs := { Preferences.standard with excludedLinters := ["prettier"] }
    ∃ c, plan (plainProfile .javaScript) prefs = .ok c ∧
      ∃ l ∈ candidates (plainProfile .javaScript), l.name = "eslint-plugin-prettier" ∧
        l.name ∉ c.linters.enabledNames ∧ ¬ Unwanted prefs l ∧
        ∀ n ∈ c.linters.enabledNames, Catalog.conflicts n l.name = false := by
  intro prefs
  let p := plainProfile .javaScript
  obtain ⟨l, hl, hname⟩ := List.mem_map.1
    (by decide +kernel : "eslint-plugin-prettier" ∈ (candidates p).map (·.name))
  have hwanted : ∀ l ∈ candidates p, l.name = "eslint-plugin-prettier" → isWanted prefs l = true := by decide +kernel
  refine ⟨_, plan_eq_ok p prefs, l, hl, hname, ?_, ?_, ?_⟩
  · rw [hname]
    decide +kernel
  · rw [← isWanted_eq_false_iff, hwanted l hl hname]
    decide
  · rw [hname]
    decide +kernel

end LintPlan.Planning
