import LintPlan.Linter.Set

/-!
# Names of a set of linters

What the operations on sets of linters do to the names that a set speaks of:

* **`mem_names_disable`**, **`mem_names_disableAll`**, **`mem_names_add`** — switching off and on moves names between
  the two lists and brings in no name but the one that it is given.
* **`disableAll_enabled`** — on a set whose names are distinct, switching off many names is one filter.
-/

namespace LintPlan.LinterSet

/-- Every name that a set speaks of, on or off. -/
def names (s : LinterSet) : List String := s.enabledNames ++ s.disabled

/-! ## §1 — the names that a set speaks of

A set speaks of the linters that are on and of the names that are off. No step drops a name; it only moves from one side to the
other. -/

/-- A name that is added to those that are off is one of them. -/
theorem mem_addDisabled {disabled : List String} {name n : String} :
    n ∈ addDisabled disabled name ↔ n ∈ disabled ∨ n = name := by
  unfold addDisabled
  split
  · next h =>
    refine ⟨Or.inl, ?_⟩
    rintro (h' | rfl)
    · exact h'
    · exact List.contains_iff_mem.1 h
  · rw [List.mem_append, List.mem_singleton]

/-- A name goes behind those that are off, and only if it is not among them. -/
theorem addDisabled_eq_append (disabled : List String) (name : String) :
    ∃ added, addDisabled disabled name = disabled ++ added ∧ ∀ n ∈ added, n ∉ disabled ∧ n = name := by
  unfold addDisabled
  split
  · exact ⟨[], (List.append_nil _).symm, by simp⟩
  · next h =>
    refine ⟨[name], rfl, ?_⟩
    intro n hn
    rw [List.mem_singleton.1 hn]
    exact ⟨mt List.contains_iff_mem.2 h, rfl⟩

/-- Taking out the first linter of a name takes out no other name. -/
theorem mem_map_name_eraseP {ls : List Linter} {name n : String} (hne : n ≠ name) :
    n ∈ (ls.eraseP (·.name == name)).map (·.name) ↔ n ∈ ls.map (·.name) := by
  simp only [List.mem_map]
  constructor
  · rintro ⟨l, hl, hn⟩
    exact ⟨l, List.mem_of_mem_eraseP hl, hn⟩
  · rintro ⟨l, hl, rfl⟩
    exact ⟨l, (List.mem_eraseP_of_neg (by simpa using hne)).2 hl, rfl⟩

theorem mem_names_disable {s : LinterSet} {name n : String} :
    n ∈ (s.disable name).names ↔ n ∈ s.names ∨ n = name := by
  show n ∈ (s.enabled.eraseP (·.name == name)).map (·.name) ++ addDisabled s.disabled name ↔
    n ∈ s.enabled.map (·.name) ++ s.disabled ∨ n = name
  rw [List.mem_append, List.mem_append, mem_addDisabled]
  by_cases hne : n = name
  · simp [hne]
  · rw [mem_map_name_eraseP hne, or_assoc]

theorem mem_names_disableAll {s : LinterSet} {ns : List String} {n : String} :
    n ∈ (s.disableAll ns).names ↔ n ∈ s.names ∨ n ∈ ns := by
  induction ns generalizing s with
  | nil => simp [disableAll]
  | cons name ns ih =>
    show n ∈ ((s.disable name).disableAll ns).names ↔ _
    rw [ih, mem_names_disable, List.mem_cons, or_assoc]

theorem mem_names_add {s : LinterSet} {l : Linter} {n : String} :
    n ∈ (s.add l).names ↔ n ∈ s.names ∨ n = l.name := by
  show n ∈ (s.enabled ++ [l]).map (·.name) ++ s.disabled ↔ n ∈ s.enabled.map (·.name) ++ s.disabled ∨ n = l.name
  simp only [List.map_append, List.map_cons, List.map_nil, List.mem_append, List.mem_singleton]
  exact or_right_comm

theorem isEnabled_iff {s : LinterSet} {name : String} : s.isEnabled name = true ↔ name ∈ s.enabledNames := by
  simp [isEnabled, enabledNames]

/-! ## §2 — sets whose names are distinct

Where names do not repeat, switching off is filtering. -/

/-- With distinct names taking out the first linter of a name takes out all of that name. -/
theorem eraseP_eq_filter_of_nodup {ls : List Linter} (h : (ls.map (·.name)).Nodup) (name : String) :
    ls.eraseP (·.name == name) = ls.filter (·.name != name) := by
  induction ls with
  | nil => rfl
  | cons l ls ih =>
    obtain ⟨hl, hls⟩ := List.nodup_cons.1 h
    by_cases hn : l.name = name
    · -- no other linter has the name
      have hrest : ∀ x ∈ ls, (x.name != name) = true := by
        intro x hx
        have hne : x.name ≠ name := by
          intro he
          exact hl (List.mem_map.2 ⟨x, hx, he.trans hn.symm⟩)
        simpa using hne
      rw [List.eraseP_cons_of_pos (by simpa using hn), List.filter_cons_of_neg (by simpa using hn),
        List.filter_eq_self.2 hrest]
    · rw [List.eraseP_cons_of_neg (by simpa using hn), List.filter_cons_of_pos (by simpa using hn), ih hls]

theorem nodup_names_filter {ls : List Linter} (h : (ls.map (·.name)).Nodup) (p : Linter → Bool) :
    ((ls.filter p).map (·.name)).Nodup := List.Nodup.sublist (List.filter_sublist.map _) h

/-- Switching off names one after the other keeps the linters of all other names. -/
theorem disableAll_enabled {s : LinterSet} (h : s.enabledNames.Nodup) (ns : List String) :
    (s.disableAll ns).enabled = s.enabled.filter fun l => !ns.contains l.name := by
  induction ns generalizing s with
  | nil => exact (List.filter_eq_self.2 fun l _ => rfl).symm
  | cons name ns ih =>
    have hoff : (s.disable name).enabled = s.enabled.filter (·.name != name) := eraseP_eq_filter_of_nodup h name
    have hnodup : (s.disable name).enabledNames.Nodup := by
      rw [enabledNames, hoff]
      exact nodup_names_filter h _
    show ((s.disable name).disableAll ns).enabled = _
    rw [ih hnodup, hoff, List.filter_filter]
    apply List.filter_congr
    intro l _
    rw [List.contains_cons, Bool.not_or, Bool.and_comm]
    rfl

end LintPlan.LinterSet
