import LintPlan.Proofs.Planning.Plan

/-!
# Where the names of a plan come from

Every step of planning moves names between those that are on and those that are off. Candidates and required linters
are the only sources of names, and no name gets lost:

* **`mem_names_selected`**, **`mem_names_applyPreferences`**, **`mem_names_separated`** — the three stages.
* **`mem_names_plan`** — the plan speaks of the candidates and the required linters, and of nothing else.
* **`mem_names_candidates`** — candidates bear names of the catalog.
-/

namespace LintPlan

namespace LinterSet

/-- Adding a name to those that are off adds it to all names. -/
theorem mem_names_push_disabled {s : LinterSet} {name n : String} :
    n ∈ ({ s with disabled := s.disabled ++ [name] } : LinterSet).names ↔ n ∈ s.names ∨ n = name := by
  show n ∈ s.enabledNames ++ (s.disabled ++ [name]) ↔ _
  rw [← List.append_assoc, List.mem_append, List.mem_singleton]
  rfl

/-- Switching off linters that are on changes where names stand, but not which there are. -/
theorem mem_names_disableAll_of_subset {s : LinterSet} {ns : List String} (h : ∀ x ∈ ns, x ∈ s.enabledNames)
    {n : String} : n ∈ (s.disableAll ns).names ↔ n ∈ s.names := by
  rw [mem_names_disableAll]
  exact or_iff_left_of_imp fun hn => List.mem_append_left _ (h n hn)

/-- A repair keeps all names. -/
theorem mem_names_separate {fuel : Nat} {s : LinterSet} {n : String} : n ∈ (s.separate fuel).names ↔ n ∈ s.names := by
  induction fuel generalizing s with
  | zero => rfl
  | succ fuel ih =>
    rw [separate]
    cases h : clashes s.enabledNames with
    | nil => rfl
    | cons pair pairs =>
      obtain ⟨-, hmem, -⟩ := Planning.mem_of_mem_clashes (h ▸ List.mem_cons_self : pair ∈ clashes s.enabledNames)
      show n ∈ ((s.disable pair.2).separate fuel).names ↔ _
      rw [ih, mem_names_disable]
      refine or_iff_left_of_imp ?_
      rintro rfl
      exact List.mem_append_left _ hmem

/-- Repairing neither adds nor loses a name. -/
theorem mem_names_separated {s : LinterSet} {n : String} : n ∈ s.separated.names ↔ n ∈ s.names := mem_names_separate

end LinterSet

namespace Planning

/-! ## §1 — selection

The names of a choice are those of its candidates. -/

/-- Choosing speaks of every linter it is given, on or off. -/
theorem mem_names_foldl_addUnlessRival {ls : List Linter} {s : LinterSet} {n : String} :
    n ∈ (ls.foldl addUnlessRival s).names ↔ n ∈ s.names ∨ n ∈ ls.map (·.name) := by
  induction ls generalizing s with
  | nil => simp
  | cons l ls ih =>
    have hone : n ∈ (addUnlessRival s l).names ↔ n ∈ s.names ∨ n = l.name := by
      unfold addUnlessRival
      split
      · exact LinterSet.mem_names_push_disabled
      · exact LinterSet.mem_names_add
    rw [List.foldl_cons, ih, hone, List.map_cons, List.mem_cons, or_assoc]

theorem mem_names_selected {p : Profile} {n : String} :
    n ∈ (selected p).names ↔ n ∈ (candidates p).map (·.name) := by
  rw [selected, withoutConflicts, mem_names_foldl_addUnlessRival, firstOfEach, mem_firstOfEachFrom_names]
  simp [LinterSet.names, LinterSet.enabledNames, LinterSet.empty]

/-- Candidates are templates of the catalog, bound to a language. -/
theorem exists_bind_of_mem_candidates {p : Profile} {l : Linter} (hl : l ∈ candidates p) :
    ∃ t ∈ Catalog.templates, ∃ language, t.bind language = l := by
  have hcat : ∀ cs : List Category, l ∈ categoryCandidates cs p.detectedLanguages →
      ∃ t ∈ Catalog.templates, ∃ language, t.bind language = l := by
    intro cs hl
    obtain ⟨t, ht, rfl⟩ := List.mem_map.1 hl
    exact ⟨t, (List.mem_filter.1 ht).1, _, rfl⟩
  rcases List.mem_append.1 hl with hl | hl
  · rcases List.mem_append.1 hl with hl | hl
    · rcases List.mem_append.1 hl with hl | hl
      · obtain ⟨language, -, hl⟩ := List.mem_flatMap.1 hl
        obtain ⟨t, ht, rfl⟩ := List.mem_map.1 hl
        exact ⟨t, (List.mem_filter.1 ht).1, _, rfl⟩
      · obtain ⟨framework, -, hl⟩ := List.mem_flatMap.1 hl
        obtain ⟨t, ht, rfl⟩ := List.mem_map.1 hl
        exact ⟨t, (List.mem_filter.1 ht).1, _, rfl⟩
    · exact hcat _ hl
  · exact hcat _ hl

theorem mem_names_candidates {p : Profile} {n : String} (h : n ∈ (candidates p).map (·.name)) :
    ∃ t ∈ Catalog.templates, t.name = n := by
  obtain ⟨l, hl, rfl⟩ := List.mem_map.1 h
  obtain ⟨t, ht, language, rfl⟩ := exists_bind_of_mem_candidates hl
  exact ⟨t, ht, rfl⟩

/-! ## §2 — preferences

Which names the preferences add. -/

theorem namesWhere_subset {s : LinterSet} {q : Linter → Bool} : ∀ x ∈ namesWhere s q, x ∈ s.enabledNames := by
  intro x hx
  obtain ⟨l, hl, rfl⟩ := List.mem_map.1 hx
  exact List.mem_map_of_mem (List.mem_filter.1 hl).1

/-- Keeping the preferred linters drops no name. -/
theorem mem_names_keepPreferred {preferred : List String} {s : LinterSet} {n : String} :
    n ∈ (keepPreferred preferred s).names ↔ n ∈ s.names := by
  unfold keepPreferred
  split
  · rfl
  · exact LinterSet.mem_names_disableAll_of_subset namesWhere_subset

/-- Nor does excluding some. -/
theorem mem_names_foldl_exclude {excluded : List String} {s : LinterSet} {n : String} :
    n ∈ (excluded.foldl exclude s).names ↔ n ∈ s.names := by
  induction excluded generalizing s with
  | nil => rfl
  | cons name excluded ih =>
    rw [List.foldl_cons, ih, exclude]
    split
    · next hon =>
      rw [LinterSet.mem_names_disable]
      refine or_iff_left_of_imp ?_
      rintro rfl
      exact List.mem_append_left _ (LinterSet.isEnabled_iff.1 hon)
    · rfl

theorem mem_names_dropBelow {threshold : Severity} {s : LinterSet} {n : String} :
    n ∈ (dropBelow threshold s).names ↔ n ∈ s.names := LinterSet.mem_names_disableAll_of_subset namesWhere_subset

/-- A required name leaves the list of those that are off and joins those that are on. -/
theorem mem_names_require {required : List String} {s : LinterSet} {name n : String} :
    n ∈ (require required s name).names ↔ n ∈ s.names ∨ n = name := by
  unfold require
  split
  · next hon =>
    refine (or_iff_left_of_imp ?_).symm
    rintro rfl
    exact List.mem_append_left _ (LinterSet.isEnabled_iff.1 hon)
  · dsimp only
    -- the rivals go off first; that changes no name
    generalize hd : s.disableAll (namesWhere s fun l => Catalog.conflicts l.name name && !required.contains l.name) = d
    have hnames : n ∈ d.names ↔ n ∈ s.names := by
      rw [← hd]
      exact LinterSet.mem_names_disableAll_of_subset namesWhere_subset
    rw [LinterSet.mem_names_add, requiredLinter_name, ← hnames, LinterSet.names, LinterSet.names]
    by_cases hn : n = name
    · simp [hn]
    · simp [hn, LinterSet.enabledNames]

theorem mem_names_foldl_require {required rest : List String} {s : LinterSet} {n : String} :
    n ∈ (rest.foldl (require required) s).names ↔ n ∈ s.names ∨ n ∈ rest := by
  induction rest generalizing s with
  | nil => simp
  | cons name rest ih => rw [List.foldl_cons, ih, mem_names_require, List.mem_cons, or_assoc]

theorem mem_names_applyPreferences {prefs : Preferences} {s : LinterSet} {n : String} :
    n ∈ (applyPreferences prefs s).names ↔ n ∈ s.names ∨ n ∈ prefs.requiredLinters := by
  show n ∈ (prefs.requiredLinters.foldl (require prefs.requiredLinters) (dropBelow prefs.severityThreshold
    (prefs.excludedLinters.foldl exclude (keepPreferred prefs.preferredLinters s)))).names ↔ _
  rw [mem_names_foldl_require, mem_names_dropBelow, mem_names_foldl_exclude, mem_names_keepPreferred]

/-! ## §3 — the plan

All steps together. -/

/-- **A plan speaks of the candidates and the required linters, and of nothing else.** -/
theorem mem_names_plan {p : Profile} {prefs : Preferences} {n : String} :
    n ∈ (optimized (separatedDraft p prefs)).linters.names ↔
      n ∈ (candidates p).map (·.name) ∨ n ∈ prefs.requiredLinters := by
  show n ∈ (applyPreferences prefs (selected p)).separated.names ↔ _
  rw [LinterSet.mem_names_separated, mem_names_applyPreferences, mem_names_selected]

end Planning

end LintPlan
