import Mathlib.Data.List.Nodup
import LintPlan.Planning.Wishes
import LintPlan.Proofs.Planning.FirstWins
import LintPlan.Proofs.Planning.LinterSets

/-!
# Preferences in closed form

Preferences are applied in steps that change one set in place: linters go off for three reasons, then every required
linter goes on and displaces its rivals. This module says what the steps amount to, for a set whose names are distinct
and free of conflicts:

* **`dropUnwanted_enabled`** — the three steps that switch linters off are one filter by `isWanted`.
* **`foldl_requireName`** — the required linters, in their order: the ones that are on displace nothing, the others go
  to the end and displace their rivals. Induction on the names that are still to come.
* **`applyPreferences_enabledNames`** — the two together.
-/

namespace LintPlan.Planning

/-! ## §1 — what preferences ask for

The result of all preferences, said without the steps. -/

/-- Is a linter preferred, if any are, and not excluded, and at least as severe as the threshold? -/
def isWanted (prefs : Preferences) (l : Linter) : Bool :=
  (prefs.preferredLinters.isEmpty || prefs.preferredLinters.contains l.name) &&
    !prefs.excludedLinters.contains l.name && decide (prefs.severityThreshold ≤ l.severity)

/-- The members of `required` that are not among the names. -/
def missing (names required : List String) : List String := required.filter fun r => !names.contains r

/-- The names that were kept, without those that conflict with a required name unless they are required themselves, and
then the required names that were not kept, each at its first occurrence. -/
def withRequired (required kept : List String) : List String :=
  kept.filter (fun k => required.contains k || !required.any (Catalog.conflicts k)) ++
    (missing kept required).eraseDups

/-! ## §2 — linters that go off

The first three steps are filters, and so their order does not matter. -/

/-- Switching off the linters with a property keeps those without it. -/
theorem disableAll_namesWhere {s : LinterSet} (h : s.enabledNames.Nodup) (p : Linter → Bool) :
    (s.disableAll (namesWhere s p)).enabled = s.enabled.filter fun l => !p l := by
  rw [LinterSet.disableAll_enabled h]
  apply List.filter_congr
  intro l hl
  rw [Bool.not_inj_iff, Bool.eq_iff_iff, List.contains_iff_mem, namesWhere, List.mem_map]
  constructor
  · rintro ⟨m, hm, hname⟩
    obtain ⟨hm, hp⟩ := List.mem_filter.1 hm
    rwa [← List.inj_on_of_nodup_map h hm hl hname]
  · intro hp
    exact ⟨l, List.mem_filter.2 ⟨hl, hp⟩, rfl⟩

/-- Preferred linters are kept, and all of them if none is named. -/
theorem keepPreferred_enabled {s : LinterSet} (h : s.enabledNames.Nodup) (preferred : List String) :
    (keepPreferred preferred s).enabled =
      s.enabled.filter fun l => preferred.isEmpty || preferred.contains l.name := by
  unfold keepPreferred
  split
  · next he =>
    rw [List.filter_eq_self.2 fun l _ => by rw [he, Bool.true_or]]
  · next he =>
    rw [disableAll_namesWhere h]
    apply List.filter_congr
    intro l _
    rw [Bool.not_not, eq_false_of_ne_true he, Bool.false_or]

/-- Excluded linters go off. -/
theorem foldl_exclude_enabled {s : LinterSet} (h : s.enabledNames.Nodup) (excluded : List String) :
    (excluded.foldl exclude s).enabled = s.enabled.filter fun l => !excluded.contains l.name := by
  induction excluded generalizing s with
  | nil => exact (List.filter_eq_self.2 fun l _ => rfl).symm
  | cons name excluded ih =>
    -- a name that is not on has no linter to filter out
    have hoff : (exclude s name).enabled = s.enabled.filter (·.name != name) := by
      unfold exclude
      split
      · exact LinterSet.eraseP_eq_filter_of_nodup h name
      · next hn =>
        refine (List.filter_eq_self.2 fun l hl => ?_).symm
        rw [LinterSet.isEnabled_iff] at hn
        simpa using fun he : l.name = name => hn (he ▸ List.mem_map_of_mem hl)
    have hnodup : (exclude s name).enabledNames.Nodup := by
      rw [LinterSet.enabledNames, hoff]
      exact LinterSet.nodup_names_filter h _
    rw [List.foldl_cons, ih hnodup, hoff, List.filter_filter]
    apply List.filter_congr
    intro l _
    rw [List.contains_cons, Bool.not_or, Bool.and_comm]
    rfl

/-- **The linters that stay on before required ones are looked at are the wanted ones.** -/
theorem dropUnwanted_enabled {s : LinterSet} (h : s.enabledNames.Nodup) (prefs : Preferences) :
    (dropBelow prefs.severityThreshold
      (prefs.excludedLinters.foldl exclude (keepPreferred prefs.preferredLinters s))).enabled =
      s.enabled.filter (isWanted prefs) := by
  have h1 := keepPreferred_enabled h prefs.preferredLinters
  have hn1 : (keepPreferred prefs.preferredLinters s).enabledNames.Nodup := by
    rw [LinterSet.enabledNames, h1]
    exact LinterSet.nodup_names_filter h _
  -- each step keeps the names distinct, which the next one needs
  have h2 := foldl_exclude_enabled hn1 prefs.excludedLinters
  have hn2 : (prefs.excludedLinters.foldl exclude (keepPreferred prefs.preferredLinters s)).enabledNames.Nodup := by
    rw [LinterSet.enabledNames, h2]
    exact LinterSet.nodup_names_filter hn1 _
  rw [dropBelow, disableAll_namesWhere hn2, h2, h1, List.filter_filter, List.filter_filter]
  apply List.filter_congr
  intro l _
  have hsev : (!decide (l.severity < prefs.severityThreshold)) = decide (prefs.severityThreshold ≤ l.severity) := by
    rw [← decide_not, decide_eq_decide]
    exact Nat.not_lt
  rw [hsev, isWanted, Bool.and_comm, Bool.and_comm (decide _), ← Bool.and_assoc]

/-! ## §3 — linters that go on

Requiring is followed along the list of required names: what is there already stays, and each missing name displaces its rivals.
-/

/-- `require` on names alone. -/
def requireName (required names : List String) (n : String) : List String :=
  if names.contains n then names
  else names.filter (fun k => !(Catalog.conflicts k n && !required.contains k)) ++ [n]

theorem requiredLinter_name (name : String) : (requiredLinter name).name = name := by
  unfold requiredLinter
  cases h : Catalog.find? name with
  | none => rfl
  | some t => exact eq_of_beq (List.find?_some (p := fun t : Template => t.name == name) h)

/-- Requiring a linter does to the names what `requireName` does, and keeps them distinct. -/
theorem require_enabledNames {s : LinterSet} (h : s.enabledNames.Nodup) (required : List String) (n : String) :
    (require required s n).enabledNames = requireName required s.enabledNames n ∧
      (require required s n).enabledNames.Nodup := by
  unfold require requireName
  by_cases hn : n ∈ s.enabledNames
  · rw [if_pos (LinterSet.isEnabled_iff.2 hn), if_pos (List.contains_iff_mem.2 hn)]
    exact ⟨rfl, h⟩
  · rw [if_neg (mt LinterSet.isEnabled_iff.1 hn), if_neg (mt List.contains_iff_mem.1 hn)]
    -- rivals go off, except those that are required themselves
    have hoff := disableAll_namesWhere h fun l => Catalog.conflicts l.name n && !required.contains l.name
    have hnames : ((s.enabled.filter fun l => !(Catalog.conflicts l.name n && !required.contains l.name)).map
        (·.name)) = s.enabledNames.filter fun k => !(Catalog.conflicts k n && !required.contains k) := by
      rw [LinterSet.enabledNames, List.filter_map]
      rfl
    simp only [LinterSet.add, LinterSet.enabledNames, hoff, List.map_append, List.map_cons, List.map_nil,
      requiredLinter_name]
    rw [hnames]
    refine ⟨rfl, List.nodup_append.2 ⟨List.Nodup.sublist List.filter_sublist h, List.pairwise_singleton _ _, ?_⟩⟩
    rintro a ha b hb rfl
    exact hn (List.mem_singleton.1 hb ▸ (List.mem_filter.1 ha).1)

theorem foldl_require_enabledNames {s : LinterSet} (h : s.enabledNames.Nodup) (required rest : List String) :
    (rest.foldl (require required) s).enabledNames = rest.foldl (requireName required) s.enabledNames := by
  induction rest generalizing s with
  | nil => rfl
  | cons n rest ih =>
    obtain ⟨hn, hnodup⟩ := require_enabledNames h required n
    rw [List.foldl_cons, List.foldl_cons, ih hnodup, hn]

theorem mem_missing {names required : List String} {r : String} :
    r ∈ missing names required ↔ r ∈ required ∧ r ∉ names := by
  simp [missing]

theorem missing_cons_of_mem {names rest : List String} {r : String} (h : r ∈ names) :
    missing names (r :: rest) = missing names rest := List.filter_cons_of_neg (by simpa using h)

theorem missing_cons_of_not_mem {names rest : List String} {r : String} (h : r ∉ names) :
    missing names (r :: rest) = r :: missing names rest := List.filter_cons_of_pos (by simpa using h)

/-- Once `r` went on, the names that are missing are those that were, without `r`. Names of `rest` are not displaced. -/
theorem missing_filter_append (kept added rest : List String) (r : String) {stay : String → Bool}
    (hstay : ∀ x ∈ rest, stay x = true) :
    missing (kept.filter stay ++ (added ++ [r])) rest = (missing (kept ++ added) rest).filter fun x => !x == r := by
  rw [missing, missing, List.filter_filter]
  apply List.filter_congr
  intro x hx
  have hmem : x ∈ kept.filter stay ↔ x ∈ kept := by rw [List.mem_filter, and_iff_left (hstay x hx)]
  rw [Bool.eq_iff_iff]
  simp only [Bool.not_eq_true', Bool.and_eq_true, List.contains_eq_mem, decide_eq_false_iff_not, List.mem_append,
    hmem, List.mem_singleton, beq_eq_false_iff_ne, ne_eq, not_or]
  constructor
  · rintro ⟨h1, h2, h3⟩
    exact ⟨h3, h1, h2⟩
  · rintro ⟨h3, h1, h2⟩
    exact ⟨h1, h2, h3⟩

/-- A name stays beside `r` and beside the names missing behind it iff it stays beside all of them. -/
theorem stays_iff (required names : List String) (r k : String) :
    ((required.contains k || !(names.filter fun x => !x == r).any (Catalog.conflicts k)) &&
      !(Catalog.conflicts k r && !required.contains k)) =
      (required.contains k || !(r :: names).any (Catalog.conflicts k)) := by
  rw [List.any_cons]
  cases required.contains k with
  | true => simp
  | false =>
    cases hc : Catalog.conflicts k r with
    | true => simp
    | false =>
      -- `r` is no rival of `k`, so it makes no difference among the names
      have hany : (names.filter fun x => !x == r).any (Catalog.conflicts k) = names.any (Catalog.conflicts k) := by
        rw [List.any_filter]
        congr 1
        funext x
        by_cases hx : x = r
        · rw [hx, hc, Bool.and_false]
        · simp [hx]
      simp [hany]

/-- **Requiring names one after the other.** `kept` were on from the start and `added` went on because they are
required; `rest` is still to come. Names that are required are never displaced, so a name of `rest` is on in the end
iff it is on now or comes first in `rest`, and it displaces its rivals among `kept` only if it is not on now. -/
theorem foldl_requireName (required kept added rest : List String) (hadded : ∀ a ∈ added, a ∈ required)
    (hrest : ∀ r ∈ rest, r ∈ required) :
    rest.foldl (requireName required) (kept ++ added) =
      kept.filter (fun k => required.contains k || !(missing (kept ++ added) rest).any (Catalog.conflicts k)) ++
        added ++ (missing (kept ++ added) rest).eraseDups := by
  induction rest generalizing kept added with
  | nil =>
    have hall : kept.filter (fun k => required.contains k || !([] : List String).any (Catalog.conflicts k)) = kept :=
      List.filter_eq_self.2 fun k _ => Bool.or_true _
    show kept ++ added = kept.filter _ ++ added ++ []
    rw [List.append_nil]
    exact congrArg (· ++ added) hall.symm
  | cons r rest ih =>
    have hr := hrest r List.mem_cons_self
    have hrest' : ∀ x ∈ rest, x ∈ required := fun x hx => hrest x (List.mem_cons_of_mem _ hx)
    rw [List.foldl_cons, requireName]
    by_cases hon : r ∈ kept ++ added
    · -- `r` is on: nothing happens
      rw [if_pos (List.contains_iff_mem.2 hon), ih kept added hadded hrest', missing_cons_of_mem hon]
    · -- `r` goes to the end of `added` and displaces its rivals among `kept`
      rw [if_neg (mt List.contains_iff_mem.1 hon), missing_cons_of_not_mem hon]
      have hstay : ∀ k ∈ required, (!(Catalog.conflicts k r && !required.contains k)) = true := by
        intro k hk
        simp [hk]
      have hadded' : ∀ a ∈ added ++ [r], a ∈ required := by
        intro a ha
        rcases List.mem_append.1 ha with ha | ha
        · exact hadded a ha
        · exact List.mem_singleton.1 ha ▸ hr
      rw [List.filter_append, List.filter_eq_self.2 fun a ha => hstay a (hadded a ha), List.append_assoc,
        ih _ (added ++ [r]) hadded' hrest', missing_filter_append kept added rest r fun x hx => hstay x (hrest' x hx),
        List.eraseDups_cons, List.filter_filter, List.filter_congr fun k _ => stays_iff required _ r k]
      simp

/-! ## §4 — preferences as a whole

Both parts put together. -/

/-- **The names that are on once preferences are applied.** -/
theorem applyPreferences_enabledNames {s : LinterSet} (hnodup : s.enabledNames.Nodup) (hfree : ConflictFree s.enabledNames)
    (prefs : Preferences) :
    (applyPreferences prefs s).enabledNames =
      withRequired prefs.requiredLinters ((s.enabled.filter (isWanted prefs)).map (·.name)) := by
  generalize hd : dropBelow prefs.severityThreshold
    (prefs.excludedLinters.foldl exclude (keepPreferred prefs.preferredLinters s)) = d
  have hen : d.enabled = s.enabled.filter (isWanted prefs) := hd ▸ dropUnwanted_enabled hnodup prefs
  have hdn : d.enabledNames.Nodup := by
    rw [LinterSet.enabledNames, hen]
    exact LinterSet.nodup_names_filter hnodup _
  have hdfree : ConflictFree d.enabledNames := by
    rw [LinterSet.enabledNames, hen]
    exact hfree.sublist (List.filter_sublist.map _)
  have happ : (applyPreferences prefs s).enabledNames =
      (prefs.requiredLinters.foldl (require prefs.requiredLinters) d).enabledNames := by
    rw [← hd]
    rfl
  have hrun := foldl_requireName prefs.requiredLinters d.enabledNames [] prefs.requiredLinters
    (fun a ha => absurd ha (List.not_mem_nil)) (fun r hr => hr)
  simp only [List.append_nil] at hrun
  rw [happ, foldl_require_enabledNames hdn, hrun, ← hen]
  show _ = withRequired prefs.requiredLinters d.enabledNames
  rw [withRequired]
  congr 1
  apply List.filter_congr
  intro k hk
  -- a required name that is on conflicts with nothing that is on
  have hany : (missing d.enabledNames prefs.requiredLinters).any (Catalog.conflicts k) =
      prefs.requiredLinters.any (Catalog.conflicts k) := by
    rw [Bool.eq_iff_iff, List.any_eq_true, List.any_eq_true]
    constructor
    · rintro ⟨r, hr, hc⟩
      exact ⟨r, (mem_missing.1 hr).1, hc⟩
    · rintro ⟨r, hr, hc⟩
      refine ⟨r, mem_missing.2 ⟨hr, ?_⟩, hc⟩
      intro hon
      rw [hdfree.conflicts_eq_false hk hon] at hc
      exact absurd hc (by decide)
  rw [hany]

end LintPlan.Planning
