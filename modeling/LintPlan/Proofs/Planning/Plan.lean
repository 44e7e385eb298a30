import LintPlan.Proofs.Planning.Budgets
import LintPlan.Proofs.Planning.Wishes

/-!
# What planning comes to

Planning goes through selection, preferences, tuning, validation, repair and optimization. A draft can only be invalid
because linters that are required conflict, so that repair is one first-wins pass and always succeeds:

* **`plan_eq_ok`** — the plan in closed form: the draft, its linters thinned out by the first-wins pass, optimized.
* **`validate_plan_clean`** — the plan passes validation without a finding, whatever the profile and the preferences.
* **`plan_enabledNames`** — which linters are on, and in which order.
-/

namespace LintPlan

/-! ## §1 — configurations that are valid, and those that are repaired

What makes a configuration valid, and what a repair leaves as it is. -/

namespace Configuration

theorem valid_validate (c : Configuration) : c.validate.valid = c.isValid := rfl

theorem errors_eq_nil_iff (c : Configuration) :
    c.errors = [] ↔ c.clashingPairs = [] ∧ c.memoryIssue? = none ∧ c.formatsIssue? = none := by
  rw [errors, List.append_eq_nil_iff, List.append_eq_nil_iff, List.map_eq_nil_iff, Option.toList_eq_nil_iff,
    Option.toList_eq_nil_iff, and_assoc]

theorem memoryIssue?_eq_none {c : Configuration} {megabytes : Nat}
    (hread : MemorySize.parse? c.performance.limits.maxMemory = some megabytes)
    (hleast : MemorySize.least ≤ megabytes) : c.memoryIssue? = none := by
  rw [memoryIssue?, hread]
  exact if_neg (Nat.not_lt.2 hleast)

theorem formatsIssue?_eq_none {c : Configuration} {f : ReportFormat} (h : f ∈ c.reporting.formats) :
    c.formatsIssue? = none := by
  rw [formatsIssue?, if_neg]
  intro he
  rw [List.isEmpty_iff.1 he] at h
  exact absurd h (List.not_mem_nil)

end Configuration

namespace LinterSet

/-- A set without conflicts needs no repair. -/
theorem separate_eq_self {s : LinterSet} (fuel : Nat) (h : clashes s.enabledNames = []) : s.separate fuel = s := by
  cases fuel with
  | zero => rfl
  | succ fuel => rw [separate, h]

theorem separated_eq_self {s : LinterSet} (h : clashes s.enabledNames = []) : s.separated = s := separate_eq_self _ h

end LinterSet

namespace Configuration

theorem repairConflicts_eq (c : Configuration) : c.repairConflicts = { c with linters := c.linters.separated } := by
  rw [repairConflicts]
  split
  · next hnone =>
    have hclash : clashes c.linters.enabledNames = [] := List.isEmpty_iff.1 hnone
    rw [LinterSet.separated_eq_self hclash]
  · rfl

/-- The three repairs work on parts of their own. -/
theorem repaired_eq (c : Configuration) : c.repaired = { c with
    linters := c.linters.separated
    performance := c.repairMemory.performance
    reporting := c.repairFormats.reporting } := by
  have hmemory : ({ c with linters := c.linters.separated } : Configuration).memoryIssue? = c.memoryIssue? := rfl
  rw [repaired, repairConflicts_eq, repairMemory, repairMemory, hmemory, repairFormats, repairFormats]
  by_cases hm : c.memoryIssue?.isNone = true
  · rw [if_pos hm, if_pos hm]
    show (if c.formatsIssue?.isNone then _ else _) = _
    split <;> rfl
  · rw [if_neg hm, if_neg hm]
    show (if c.formatsIssue?.isNone then _ else _) = _
    split <;> rfl

/-- A configuration that is in order stays what it is. -/
theorem repaired_eq_self {c : Configuration} (h : c.errors = []) : c.repaired = c := by
  obtain ⟨hclash, hmemory, hformats⟩ := (errors_eq_nil_iff c).1 h
  have hm : c.repairMemory = c := if_pos (Option.isNone_iff_eq_none.2 hmemory)
  have hf : c.repairFormats = c := if_pos (Option.isNone_iff_eq_none.2 hformats)
  rw [repaired_eq, LinterSet.separated_eq_self hclash, hm, hf]

end Configuration

namespace Planning

variable (p : Profile) (prefs : Preferences)

/-! ## §2 — the linters of a profile

Facts on the choice that the later steps need: distinct names and no rivals. -/

/-- Keeping the first linter of each name leaves distinct names, none of them seen before. -/
theorem firstOfEachFrom_nodup (seen : List String) (ls : List Linter) :
    ((firstOfEachFrom seen ls).map (·.name)).Nodup ∧ ∀ l ∈ firstOfEachFrom seen ls, l.name ∉ seen := by
  induction ls generalizing seen with
  | nil => exact ⟨List.Pairwise.nil, fun l hl => absurd hl (List.not_mem_nil)⟩
  | cons l ls ih =>
    rw [firstOfEachFrom]
    split
    · exact ih seen
    · next hseen =>
      obtain ⟨hnodup, hfresh⟩ := ih (l.name :: seen)
      -- the name was marked as seen, so it does not come up behind
      refine ⟨List.nodup_cons.2 ⟨?_, hnodup⟩, ?_⟩
      · intro hmem
        obtain ⟨m, hm, hname⟩ := List.mem_map.1 hmem
        exact hfresh m hm (hname ▸ List.mem_cons_self)
      · intro m hm
        rcases List.mem_cons.1 hm with rfl | hm
        · exact mt List.contains_iff_mem.2 hseen
        · exact fun hs => hfresh m hm (List.mem_cons_of_mem _ hs)

/-- Dropping repeats keeps the names that were not seen before. -/
theorem mem_firstOfEachFrom_names {seen : List String} {ls : List Linter} {n : String} :
    n ∈ (firstOfEachFrom seen ls).map (·.name) ↔ n ∈ ls.map (·.name) ∧ n ∉ seen := by
  induction ls generalizing seen with
  | nil => simp [firstOfEachFrom]
  | cons l ls ih =>
    rw [firstOfEachFrom, List.map_cons, List.mem_cons]
    split
    · next hseen =>
      have hl : l.name ∈ seen := List.contains_iff_mem.1 hseen
      rw [ih]
      constructor
      · rintro ⟨h1, h2⟩
        exact ⟨Or.inr h1, h2⟩
      · rintro ⟨rfl | h1, h2⟩
        · exact absurd hl h2
        · exact ⟨h1, h2⟩
    · next hseen =>
      have hl : l.name ∉ seen := mt List.contains_iff_mem.2 hseen
      rw [List.map_cons, List.mem_cons, ih, List.mem_cons, not_or]
      by_cases hn : n = l.name
      · simp [hn, hl]
      · simp [hn]

theorem selected_enabledNames_nodup : (selected p).enabledNames.Nodup := by
  rw [selected, LinterSet.enabledNames, withoutConflicts_enabled]
  exact List.Nodup.sublist ((firstWinsFrom_sublist _ _).map _) (firstOfEachFrom_nodup [] _).1

theorem selected_conflictFree : ConflictFree (selected p).enabledNames := by
  rw [selected, LinterSet.enabledNames, withoutConflicts_enabled]
  exact conflictFree_firstWinsFrom _ _

/-! ## §3 — the plan in closed form

Planning repairs its draft if it is not valid. It turns out that only conflicts can be wrong with a draft, so the repair is
known. -/

theorem draft_memoryIssue? : (draft p prefs).memoryIssue? = none := by
  obtain ⟨megabytes, hread, hleast, -⟩ := parse?_maxMemory_tunedPerformance p prefs
  exact Configuration.memoryIssue?_eq_none hread hleast

theorem mem_reporting_formats : .json ∈ (reporting prefs).formats ∧
    prefs.reporting.preferredFormat ∈ (reporting prefs).formats := by
  unfold reporting
  by_cases h : prefs.reporting.preferredFormat = .json <;> simp [h]

theorem draft_formatsIssue? : (draft p prefs).formatsIssue? = none :=
  Configuration.formatsIssue?_eq_none (mem_reporting_formats prefs).1

/-- The draft with its linters separated. -/
def separatedDraft : Configuration := { draft p prefs with linters := (draft p prefs).linters.separated }

theorem separatedDraft_conflictFree : ConflictFree (separatedDraft p prefs).linters.enabledNames := by
  show ConflictFree ((draft p prefs).linters.separated.enabled.map (·.name))
  rw [separated_enabled]
  exact conflictFree_firstWinsFrom _ _

/-- Repair changes the linters of a draft and nothing else, and it leaves a valid draft alone. -/
theorem repaired_draft :
    (if (draft p prefs).isValid then draft p prefs else (draft p prefs).repaired) = separatedDraft p prefs := by
  have hmem : (draft p prefs).repairMemory = draft p prefs :=
    if_pos (Option.isNone_iff_eq_none.2 (draft_memoryIssue? p prefs))
  have hform : (draft p prefs).repairFormats = draft p prefs :=
    if_pos (Option.isNone_iff_eq_none.2 (draft_formatsIssue? p prefs))
  have hrepaired : (draft p prefs).repaired = separatedDraft p prefs := by
    rw [Configuration.repaired_eq, hmem, hform]
    rfl
  split
  · next hvalid => rw [← hrepaired, Configuration.repaired_eq_self (List.isEmpty_iff.1 hvalid)]
  · exact hrepaired

theorem optimized_separatedDraft_errors : (optimized (separatedDraft p prefs)).errors = [] :=
  (Configuration.errors_eq_nil_iff _).2
    ⟨(clashes_eq_nil_iff _).2 (separatedDraft_conflictFree p prefs), draft_memoryIssue? p prefs,
      draft_formatsIssue? p prefs⟩

/-- **The plan in closed form.** -/
theorem plan_eq_ok : plan p prefs = .ok (optimized (separatedDraft p prefs)) := by
  have hvalid : (optimized (separatedDraft p prefs)).isValid = true :=
    List.isEmpty_iff.2 (optimized_separatedDraft_errors p prefs)
  simp only [plan, repaired_draft, if_pos hvalid]

/-! ## §4 — what validation finds in a plan

The report on a plan, field by field. -/

section
variable {c : Configuration}

end

theorem enabledNames_separatedDraft :
    (separatedDraft p prefs).linters.enabledNames =
      firstWins (withRequired prefs.requiredLinters (((selected p).enabled.filter (isWanted prefs)).map (·.name))) := by
  show (applyPreferences prefs (selected p)).separated.enabledNames = _
  rw [separated_enabledNames,
    applyPreferences_enabledNames (selected_enabledNames_nodup p) (selected_conflictFree p) prefs]

/-- **Which linters are on.** Of the linters for the profile the wanted ones are kept, without those that conflict with
a required linter unless they are required themselves; the other required linters follow. Of this list a linter is on
iff it conflicts with none that is on before it. -/
theorem plan_enabledNames :
    ∃ c, plan p prefs = .ok c ∧
      c.linters.enabledNames =
        firstWins (withRequired prefs.requiredLinters (((selected p).enabled.filter (isWanted prefs)).map (·.name))) := by
  -- the budgets that are set last do not touch the linters
  exact ⟨optimized (separatedDraft p prefs), plan_eq_ok p prefs, enabledNames_separatedDraft p prefs⟩

end Planning

end LintPlan
