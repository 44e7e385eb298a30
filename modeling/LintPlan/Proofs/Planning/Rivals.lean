import Mathlib.Data.List.Nodup
import LintPlan.Linter.Catalog

/-!
# Rivals in the catalog

What the catalog says about tools that must not run together. These are facts of its table; planning relies on each of them:

* **`rival_unique`** — rivals come in pairs: no tool has two of them.
* **`covers_of_rival`** — of two rivals the one that is listed first is chosen whenever the other one is: it lints all the
  languages of the other one, and both are of one category.
-/

namespace LintPlan

/-! ## §1 — templates and names

Tools of the catalog are known by their names. -/

/-- A search by a key that no two members share finds the member that has it. -/
theorem find?_key_iff {α : Type} {key : α → String} {xs : List α} (h : (xs.map key).Nodup) {k : String} {x : α} :
    xs.find? (key · == k) = some x ↔ x ∈ xs ∧ key x = k := by
  constructor
  · intro hfind
    exact ⟨List.mem_of_find?_eq_some hfind, by simpa using List.find?_some hfind⟩
  · rintro ⟨hx, rfl⟩
    cases hfind : xs.find? (key · == key x) with
    | none => exact absurd (List.find?_eq_none.1 hfind x hx) (by simp)
    | some y =>
      have hkey : key y = key x := by simpa using List.find?_some hfind
      rw [List.inj_on_of_nodup_map h (List.mem_of_find?_eq_some hfind) hx hkey]

namespace Catalog

variable {a b c : String} {t u : Template}

theorem eq_of_name_eq (ht : t ∈ templates) (hu : u ∈ templates) (h : t.name = u.name) : t = u :=
  List.inj_on_of_nodup_map names_nodup ht hu h

theorem find?_name (ht : t ∈ templates) : find? t.name = some t := (find?_key_iff names_nodup).2 ⟨ht, rfl⟩

/-- A name lists another if its tool has that as a rival. -/
theorem lists_eq_true_iff : lists a b = true ↔ ∃ t ∈ templates, t.name = a ∧ b ∈ t.rivals := by
  constructor
  · intro h
    obtain ⟨t, hfind, hb⟩ := (Option.any_eq_true _ _).mp h
    have hname : t.name = a := by simpa using List.find?_some hfind
    exact ⟨t, List.mem_of_find?_eq_some hfind, hname, List.contains_iff_mem.mp hb⟩
  · rintro ⟨t, ht, rfl, hb⟩
    rw [lists, find?_name ht, Option.any_some]
    exact List.contains_iff_mem.mpr hb

/-! ## §2 — the table

What is true of the catalog as it stands, found by going through it. -/

/-- Tools list each other. -/
theorem lists_of_mem_rivals : ∀ t ∈ templates, ∀ r ∈ t.rivals, lists r t.name = true := by decide +kernel

/-- The table of pairs says nothing that the tools' own entries do not say. -/
theorem lists_of_mem_conflictPairs : ∀ pair ∈ conflictPairs, lists pair.1 pair.2 = true := by decide

theorem length_rivals_le : ∀ t ∈ templates, t.rivals.length ≤ 1 := by decide

/-- Is a tool chosen for whatever another one is chosen for? -/
structure Covers (t u : Template) : Prop where
  languages : ∀ l ∈ u.languages, l ∈ t.languages
  frameworks : u.frameworks = []
  bound : u.languages ≠ []
  category : u.category = t.category

instance (t u : Template) : Decidable (Covers t u) :=
  decidable_of_iff ((∀ l ∈ u.languages, l ∈ t.languages) ∧ u.frameworks = [] ∧ u.languages ≠ [] ∧ u.category = t.category)
    ⟨fun ⟨hl, hf, hb, hc⟩ => ⟨hl, hf, hb, hc⟩, fun h => ⟨h.languages, h.frameworks, h.bound, h.category⟩⟩

theorem covers_of_mem_rivals : templates.Pairwise fun t u => u.name ∈ t.rivals → Covers t u := by decide +kernel

/-! ## §3 — rivals

What the rest of planning needs to know of the catalog. It does not look at single tools. -/

theorem lists_symm (h : lists a b = true) : lists b a = true := by
  obtain ⟨t, ht, rfl, hb⟩ := lists_eq_true_iff.mp h
  exact lists_of_mem_rivals t ht b hb

theorem lists_of_arePaired (h : arePaired a b = true) : lists a b = true := by
  obtain ⟨pair, hpair, hsame⟩ := List.any_eq_true.mp h
  have hlists := lists_of_mem_conflictPairs pair hpair
  simp only [Bool.or_eq_true, Bool.and_eq_true, beq_iff_eq] at hsame
  obtain ⟨rfl, rfl⟩ | ⟨rfl, rfl⟩ := hsame
  · exact hlists
  · exact lists_symm hlists

theorem lists_of_conflicts (h : conflicts a b = true) : lists a b = true := by
  rw [conflicts, Bool.and_eq_true, Bool.or_eq_true, Bool.or_eq_true] at h
  obtain ⟨-, (h | h) | h⟩ := h
  · exact lists_of_arePaired h
  · exact h
  · exact lists_symm h

theorem ne_of_conflicts (h : conflicts a b = true) : a ≠ b := by
  rintro rfl
  rw [conflicts_irrefl] at h
  cases h

theorem mem_names_of_conflicts (h : conflicts a b = true) : a ∈ templates.map (·.name) := by
  obtain ⟨t, ht, rfl, -⟩ := lists_eq_true_iff.mp (lists_of_conflicts h)
  exact List.mem_map_of_mem ht

/-- **No tool has two rivals.** -/
theorem rival_unique (hb : conflicts a b = true) (hc : conflicts a c = true) : b = c := by
  obtain ⟨t, ht, rfl, hbt⟩ := lists_eq_true_iff.mp (lists_of_conflicts hb)
  obtain ⟨u, hu, hname, hct⟩ := lists_eq_true_iff.mp (lists_of_conflicts hc)
  rw [eq_of_name_eq hu ht hname] at hct
  have hlen := length_rivals_le t ht
  cases hr : t.rivals with
  | nil => simp [hr] at hbt
  | cons r rest =>
    have hrest : rest = [] := by simpa [hr] using hlen
    rw [hr, hrest, List.mem_singleton] at hbt hct
    rw [hbt, hct]

/-- **The rival that is listed first covers the other one.** -/
theorem covers_of_rival : templates.Pairwise fun t u => conflicts t.name u.name = true → Covers t u := by
  refine covers_of_mem_rivals.imp_of_mem ?_
  intro t u ht _ hcovers hc
  obtain ⟨t', ht', hname, hu⟩ := lists_eq_true_iff.mp (lists_of_conflicts hc)
  rw [eq_of_name_eq ht' ht hname] at hu
  exact hcovers hu

end Catalog

end LintPlan
