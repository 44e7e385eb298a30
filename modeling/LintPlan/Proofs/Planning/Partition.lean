import LintPlan.Proofs.Planning.Names

/-!
# The two lists of a plan

A set of linters has two lists of names, those that are on and those that are off. `LinterSet.names` puts one behind the
other, so that "no name stands twice, and none in both lists" is `s.names.Nodup`. Every step of planning keeps that:

* **`names_disable_perm`** — switching off a linter that is on moves its name. Selection, the three reasons to switch off
  and repair are such moves, so each of them gives the same names in another order (`names_selected_perm`,
  `names_dropUnwanted_perm`, `names_separated_perm`).
* **`nodup_names_require`** — requiring a linter is the only step that brings in a name. It takes the name out of the
  list of those that are off first.
* **`plan_partitions_names`** — the candidates and the required linters are parted between the two lists of a plan.
-/

namespace LintPlan

namespace LinterSet

variable {s : LinterSet} {name : String} {ns : List String}

/-! ## §1 — names that move

Switching off moves a name from one side to the other, so the names as a whole are rearranged. -/

theorem not_mem_disabled_of_nodup (h : s.names.Nodup) (hon : name ∈ s.enabledNames) : name ∉ s.disabled := by
  intro hoff
  exact (List.nodup_append.1 h).2.2 name hon name hoff rfl

theorem nodup_namesWhere (h : s.names.Nodup) (p : Linter → Bool) : (Planning.namesWhere s p).Nodup :=
  nodup_names_filter (List.nodup_append.1 h).1 p

/-- **A linter that goes off moves its name.** -/
theorem names_disable_perm (hon : name ∈ s.enabledNames) (hoff : name ∉ s.disabled) :
    (s.disable name).names.Perm s.names := by
  obtain ⟨l, hl, hname⟩ := List.mem_map.1 hon
  obtain ⟨k, before, after, -, hk, hsplit, herase⟩ :=
    List.exists_of_eraseP (p := (·.name == name)) hl (by simpa using hname)
  have hkname : k.name = name := by simpa using hk
  have hadd : addDisabled s.disabled name = s.disabled ++ [name] := if_neg (by simpa using hoff)
  have hbefore : s.names = before.map (·.name) ++ name :: (after.map (·.name) ++ s.disabled) := by
    simp [names, enabledNames, hsplit, hkname]
  have hafter : (s.disable name).names = before.map (·.name) ++ (after.map (·.name) ++ s.disabled ++ [name]) := by
    simp [names, enabledNames, disable, herase, hadd]
  rw [hbefore, hafter]
  exact (List.perm_append_singleton name _).append_left _

/-- Induction on the names: those that are still to come stay on, as they are distinct. -/
theorem names_disableAll_perm (h : s.names.Nodup) (hns : ns.Nodup) (hon : ∀ n ∈ ns, n ∈ s.enabledNames) :
    (s.disableAll ns).names.Perm s.names := by
  induction ns generalizing s with
  | nil => exact List.Perm.refl _
  | cons n ns ih =>
    obtain ⟨hn, hns⟩ := List.nodup_cons.1 hns
    have hmove : (s.disable n).names.Perm s.names :=
      names_disable_perm (hon n List.mem_cons_self) (not_mem_disabled_of_nodup h (hon n List.mem_cons_self))
    have hrest : ∀ m ∈ ns, m ∈ (s.disable n).enabledNames := by
      intro m hm
      have hne : m ≠ n := fun he => hn (he ▸ hm)
      exact (mem_map_name_eraseP hne).2 (hon m (List.mem_cons_of_mem _ hm))
    exact (ih (hmove.nodup_iff.2 h) hns hrest).trans hmove

/-- Switching off the linters with a property moves names. -/
theorem names_disableWhere_perm (h : s.names.Nodup) (p : Linter → Bool) :
    (s.disableAll (Planning.namesWhere s p)).names.Perm s.names :=
  names_disableAll_perm h (nodup_namesWhere h p) Planning.namesWhere_subset

/-- A repair rearranges the names. -/
theorem names_separate_perm (fuel : Nat) (h : s.names.Nodup) : (s.separate fuel).names.Perm s.names := by
  induction fuel generalizing s with
  | zero => exact List.Perm.refl _
  | succ fuel ih =>
    rw [separate]
    cases hclash : clashes s.enabledNames with
    | nil => exact List.Perm.refl _
    | cons pair pairs =>
      obtain ⟨-, hon, -⟩ := Planning.mem_of_mem_clashes (hclash ▸ List.mem_cons_self : pair ∈ clashes s.enabledNames)
      have hmove := names_disable_perm hon (not_mem_disabled_of_nodup h hon)
      exact (ih (hmove.nodup_iff.2 h)).trans hmove

/-- Repairing moves names. -/
theorem names_separated_perm (h : s.names.Nodup) : s.separated.names.Perm s.names := names_separate_perm _ h

end LinterSet

namespace Planning

variable {s : LinterSet}

/-! ## §2 — selection

The choice starts from nothing and adds names. -/

/-- Each linter that is looked at puts its name into one of the lists. -/
theorem names_addUnlessRival_perm (s : LinterSet) (l : Linter) :
    (addUnlessRival s l).names.Perm (s.names ++ [l.name]) := by
  unfold addUnlessRival
  split
  · simp [LinterSet.names, LinterSet.enabledNames]
  · have hon : (s.add l).names = s.enabledNames ++ l.name :: s.disabled := by
      simp [LinterSet.names, LinterSet.enabledNames, LinterSet.add]
    have hend : s.names ++ [l.name] = s.enabledNames ++ (s.disabled ++ [l.name]) := List.append_assoc ..
    rw [hon, hend]
    exact (List.perm_append_singleton l.name _).symm.append_left _

theorem names_foldl_addUnlessRival_perm (ls : List Linter) (s : LinterSet) :
    (ls.foldl addUnlessRival s).names.Perm (s.names ++ ls.map (·.name)) := by
  induction ls generalizing s with
  | nil => simp
  | cons l ls ih =>
    have hone := (names_addUnlessRival_perm s l).append_right (ls.map (·.name))
    rw [List.append_assoc] at hone
    exact (ih (addUnlessRival s l)).trans hone

/-- **Selection parts the candidates**, each name of them once. -/
theorem names_selected_perm (p : Profile) :
    (selected p).names.Perm ((firstOfEach (candidates p)).map (·.name)) :=
  names_foldl_addUnlessRival_perm _ .empty

theorem nodup_names_selected (p : Profile) : (selected p).names.Nodup :=
  (names_selected_perm p).nodup_iff.2 (firstOfEachFrom_nodup [] _).1

/-! ## §3 — preferences

Most preferences move names; only requiring adds some. -/

/-- Keeping preferred linters rearranges the names. -/
theorem names_keepPreferred_perm (h : s.names.Nodup) (preferred : List String) :
    (keepPreferred preferred s).names.Perm s.names := by
  unfold keepPreferred
  split
  · exact List.Perm.refl _
  · exact LinterSet.names_disableWhere_perm h _

/-- So does excluding some. -/
theorem names_foldl_exclude_perm (h : s.names.Nodup) (excluded : List String) :
    (excluded.foldl exclude s).names.Perm s.names := by
  induction excluded generalizing s with
  | nil => exact List.Perm.refl _
  | cons name excluded ih =>
    have hone : (exclude s name).names.Perm s.names := by
      unfold exclude
      split
      · next hon =>
        have hon := LinterSet.isEnabled_iff.1 hon
        exact LinterSet.names_disable_perm hon (LinterSet.not_mem_disabled_of_nodup h hon)
      · exact List.Perm.refl _
    exact (ih (hone.nodup_iff.2 h)).trans hone

/-- **The three reasons to switch a linter off move names.** -/
theorem names_dropUnwanted_perm (h : s.names.Nodup) (prefs : Preferences) :
    (dropBelow prefs.severityThreshold
      (prefs.excludedLinters.foldl exclude (keepPreferred prefs.preferredLinters s))).names.Perm s.names := by
  have h1 := names_keepPreferred_perm h prefs.preferredLinters
  have h2 := (names_foldl_exclude_perm (h1.nodup_iff.2 h) prefs.excludedLinters).trans h1
  exact (LinterSet.names_disableWhere_perm (h2.nodup_iff.2 h) _).trans h2

/-- **A required linter goes on once, and leaves the list of those that are off.** -/
theorem nodup_names_require (h : s.names.Nodup) (required : List String) (name : String) :
    (require required s name).names.Nodup := by
  unfold require
  split
  · exact h
  · next hoff =>
    dsimp only
    generalize hd : s.disableAll (namesWhere s fun l => Catalog.conflicts l.name name && !required.contains l.name) = d
    have hdn : d.names.Nodup := hd ▸ (LinterSet.names_disableWhere_perm h _).nodup_iff.2 h
    -- displacing rivals switches nothing on, so the required linter is still off
    have hname : name ∉ d.enabledNames := by
      have hden := disableAll_namesWhere (List.nodup_append.1 h).1
        fun l => Catalog.conflicts l.name name && !required.contains l.name
      rw [hd] at hden
      rw [LinterSet.enabledNames, hden]
      intro hmem
      obtain ⟨l, hl, rfl⟩ := List.mem_map.1 hmem
      exact hoff (LinterSet.isEnabled_iff.2 (List.mem_map_of_mem (List.mem_filter.1 hl).1))
    have hnames : (LinterSet.add { d with disabled := d.disabled.filter (· != name) } (requiredLinter name)).names =
        d.enabledNames ++ name :: d.disabled.filter (· != name) := by
      simp [LinterSet.names, LinterSet.enabledNames, LinterSet.add, requiredLinter_name]
    have hrest : (d.enabledNames ++ d.disabled.filter (· != name)).Nodup :=
      hdn.sublist (List.filter_sublist.append_left _)
    rw [hnames, List.perm_middle.nodup_iff, List.nodup_cons]
    refine ⟨?_, hrest⟩
    simp [hname]

theorem nodup_names_foldl_require (h : s.names.Nodup) (required rest : List String) :
    (rest.foldl (require required) s).names.Nodup := by
  induction rest generalizing s with
  | nil => exact h
  | cons name rest ih => exact ih (nodup_names_require h required name)

theorem nodup_names_applyPreferences (h : s.names.Nodup) (prefs : Preferences) :
    (applyPreferences prefs s).names.Nodup :=
  nodup_names_foldl_require ((names_dropUnwanted_perm h prefs).nodup_iff.2 h) _ _

/-! ## §4 — the plan

On and off are disjoint, and together they are what was spoken of. -/

theorem nodup_names_separatedDraft (p : Profile) (prefs : Preferences) : (separatedDraft p prefs).linters.names.Nodup := by
  have hdraft := nodup_names_applyPreferences (nodup_names_selected p) prefs
  exact (LinterSet.names_separated_perm hdraft).nodup_iff.2 hdraft

/-- **No linter is lost, listed twice or both on and off.** The lists of a plan part the names of the candidates and of
the required linters. -/
theorem plan_partitions_names (p : Profile) (prefs : Preferences) :
    ∃ c, plan p prefs = .ok c ∧
      c.linters.enabledNames.Nodup ∧ c.linters.disabled.Nodup ∧
      List.Disjoint c.linters.enabledNames c.linters.disabled ∧
      ∀ n, n ∈ c.linters.enabledNames ∨ n ∈ c.linters.disabled ↔
        n ∈ (candidates p).map (·.name) ∨ n ∈ prefs.requiredLinters := by
  have hdraft := nodup_names_applyPreferences (nodup_names_selected p) prefs
  have hplan : (optimized (separatedDraft p prefs)).linters.names.Nodup :=
    (LinterSet.names_separated_perm hdraft).nodup_iff.2 hdraft
  obtain ⟨hon, hoff, hapart⟩ := List.nodup_append.1 hplan
  refine ⟨optimized (separatedDraft p prefs), plan_eq_ok p prefs, hon, hoff, ?_, ?_⟩
  · intro n hn hn'
    exact hapart n hn n hn' rfl
  · intro n
    rw [← mem_names_plan, LinterSet.names, List.mem_append]

end Planning

end LintPlan
