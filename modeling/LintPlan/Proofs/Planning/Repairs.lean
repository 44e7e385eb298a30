import LintPlan.Proofs.Planning.Names

/-!
# What a repair does

A repair takes turns until no two linters conflict, and each turn looks at all pairs again. It comes to a stop of its
own accord, it does what choosing among candidates does in one pass, and it replaces nothing that could be used.

* **`separate_eq_separated`** — there are at most as many turns as linters are on: more make no difference.
* **`separated_eq_withoutConflicts`** — what stays on and what goes off is what the pass over candidates says. A linter
  that a turn switches off has a rival that no turn switches off, so going off is decided by what the pass keeps.
* **`autoFix_repairs`** — a repair always succeeds, is done the first time, and leaves alone what is in order.
-/

namespace LintPlan

namespace LinterSet

/-! ## §1 — the turns come to an end

Each turn takes a linter out, so there are at most as many turns as linters. -/

/-- More turns after some turns. -/
theorem separate_add (fuel more : Nat) (s : LinterSet) :
    s.separate (fuel + more) = (s.separate fuel).separate more := by
  induction fuel generalizing s with
  | zero => rw [Nat.zero_add]; rfl
  | succ fuel ih =>
    rw [Nat.succ_add, separate, separate]
    cases hclash : clashes s.enabledNames with
    | nil => exact (separate_eq_self more hclash).symm
    | cons pair pairs => exact ih (s.disable pair.2)

theorem clashes_separated (s : LinterSet) : clashes s.separated.enabledNames = [] := by
  have hfree : Planning.ConflictFree (s.separated.enabled.map (·.name)) := by
    rw [Planning.separated_enabled]
    exact Planning.conflictFree_firstWinsFrom _ _
  exact (Planning.clashes_eq_nil_iff _).2 hfree

/-- **The turns come to an end** after as many as there are linters: a repair that may go on does not. -/
theorem separate_eq_separated (s : LinterSet) (more : Nat) : s.separate (s.enabled.length + more) = s.separated := by
  rw [separate_add]
  exact separate_eq_self more (clashes_separated s)

/-- Turns do not touch the rules. -/
theorem separate_customRules (fuel : Nat) (s : LinterSet) : (s.separate fuel).customRules = s.customRules := by
  induction fuel generalizing s with
  | zero => rfl
  | succ fuel ih =>
    rw [separate]
    cases clashes s.enabledNames with
    | nil => rfl
    | cons pair pairs => exact ih (s.disable pair.2)

/-! ## §2 — what goes off has a rival that stays

Along the turns the names that go off are collected, each with its reason. -/

section
variable {s : LinterSet} {pair : String × String} {pairs : List (String × String)}

theorem firstWins_disable (h : clashes s.enabledNames = pair :: pairs) :
    Planning.firstWins (s.disable pair.2).enabledNames = Planning.firstWins s.enabledNames := by
  -- the linter that goes off is one that the pass skips
  have hpass := Planning.firstWinsFrom_eraseP_later (fun k hk => absurd hk (List.not_mem_nil)) h
  have hnames := congrArg (List.map Linter.name) hpass
  rw [Planning.map_firstWinsFrom, Planning.map_firstWinsFrom] at hnames
  exact hnames

theorem exists_rival_of_clash (h : clashes s.enabledNames = pair :: pairs) :
    ∃ k ∈ Planning.firstWins s.enabledNames, Catalog.conflicts k pair.2 = true := by
  have hearlier := Planning.earlier_mem_firstWinsFrom (fun k hk => absurd hk (List.not_mem_nil)) h
  rw [Planning.map_firstWinsFrom] at hearlier
  have hpair := Planning.mem_of_mem_clashes (h ▸ List.mem_cons_self : pair ∈ clashes s.enabledNames)
  exact ⟨pair.1, hearlier, hpair.2.2⟩

end

/-- Turns put names at the end of those that are off, none of which was off before. Each has a rival that the pass keeps. -/
theorem separate_disabled (fuel : Nat) (s : LinterSet) :
    ∃ added, (s.separate fuel).disabled = s.disabled ++ added ∧
      ∀ n ∈ added, n ∉ s.disabled ∧ ∃ k ∈ Planning.firstWins s.enabledNames, Catalog.conflicts k n = true := by
  induction fuel generalizing s with
  | zero => exact ⟨[], (List.append_nil _).symm, by simp⟩
  | succ fuel ih =>
    rw [separate]
    cases hclash : clashes s.enabledNames with
    | nil => exact ⟨[], (List.append_nil _).symm, by simp⟩
    | cons pair pairs =>
      obtain ⟨turn, hturn, hfirst⟩ := addDisabled_eq_append s.disabled pair.2
      obtain ⟨added, heq, hadded⟩ := ih (s.disable pair.2)
      rw [firstWins_disable hclash] at hadded
      have hoff : (s.disable pair.2).disabled = s.disabled ++ turn := hturn
      -- the name of this turn in front of those of the later ones
      refine ⟨turn ++ added, ?_, ?_⟩
      · show ((s.disable pair.2).separate fuel).disabled = _
        rw [heq, hoff, List.append_assoc]
      · intro n hn
        rcases List.mem_append.1 hn with hn | hn
        · rw [(hfirst n hn).2]
          exact ⟨(hfirst n hn).2 ▸ (hfirst n hn).1, exists_rival_of_clash hclash⟩
        · rw [hoff] at hadded
          exact ⟨fun hs => (hadded n hn).1 (List.mem_append_left _ hs), (hadded n hn).2⟩

end LinterSet

/-! ## §3 — a repair and the choice among candidates

Both keep what the pass keeps, and put off the rest. -/

namespace Planning

theorem not_mem_firstWins_of_rival {names : List String} {k n : String} (hk : k ∈ firstWins names)
    (hc : Catalog.conflicts k n = true) : n ∉ firstWins names := by
  intro hn
  have hfree : ConflictFree (firstWins names) := by
    have h : ConflictFree ((firstWins names).map id) := conflictFree_firstWinsFrom [] names
    rwa [List.map_id] at h
  rw [hfree.conflicts_eq_false hk hn] at hc
  exact absurd hc (by decide)

/-- What the choice puts off was off before or has a rival that is on. -/
theorem mem_disabled_foldl_addUnlessRival {ls : List Linter} {s : LinterSet} {n : String}
    (h : n ∈ (ls.foldl addUnlessRival s).disabled) :
    n ∈ s.disabled ∨ ∃ k ∈ (ls.foldl addUnlessRival s).enabledNames, Catalog.conflicts k n = true := by
  induction ls generalizing s with
  | nil => exact .inl h
  | cons l ls ih =>
    rw [List.foldl_cons] at h ⊢
    refine (ih h).elim ?_ .inr
    intro hn
    -- the pass only adds to what is on, so a rival at this step is one at the end
    have hstays : ∀ k ∈ s.enabled, k ∈ (ls.foldl addUnlessRival (addUnlessRival s l)).enabled := by
      intro k hk
      have hstep : k ∈ (addUnlessRival s l).enabled := by
        unfold addUnlessRival
        split
        · exact hk
        · exact List.mem_append_left _ hk
      rw [foldl_addUnlessRival_enabled]
      exact List.mem_append_left _ hstep
    rw [addUnlessRival] at hn
    split at hn
    · next hrival =>
      obtain ⟨k, hk, hc⟩ := List.any_eq_true.1 hrival
      rcases List.mem_append.1 hn with hn | hn
      · exact .inl hn
      · rw [List.mem_singleton.1 hn]
        exact .inr ⟨k.name, List.mem_map_of_mem (hstays k hk), hc⟩
    · exact .inl hn

/-- So it puts off exactly what the pass does not keep. -/
theorem mem_disabled_withoutConflicts {ls : List Linter} {n : String} :
    n ∈ (withoutConflicts ls).disabled ↔ n ∈ ls.map (·.name) ∧ n ∉ firstWins (ls.map (·.name)) := by
  have hon : (withoutConflicts ls).enabledNames = firstWins (ls.map (·.name)) := by
    rw [LinterSet.enabledNames, withoutConflicts_enabled, map_firstWinsFrom]
    rfl
  have hnames : n ∈ (withoutConflicts ls).names ↔ n ∈ ls.map (·.name) := by
    rw [withoutConflicts, mem_names_foldl_addUnlessRival]
    exact or_iff_right (List.not_mem_nil)
  rw [LinterSet.names, hon, List.mem_append] at hnames
  constructor
  · intro hoff
    -- a list may repeat a name, so that it was put off once does not say that it is not kept; its rival does
    refine ⟨hnames.1 (.inr hoff), ?_⟩
    rcases mem_disabled_foldl_addUnlessRival hoff with hnil | ⟨k, hk, hc⟩
    · exact absurd hnil (List.not_mem_nil)
    · exact not_mem_firstWins_of_rival (hon ▸ hk) hc
  · rintro ⟨hmem, hskip⟩
    exact (hnames.2 hmem).resolve_left hskip

end Planning

namespace LinterSet

/-- A repair puts off the names that the pass does not keep, apart from those that were off. -/
theorem disabled_separated (s : LinterSet) :
    ∃ added, s.separated.disabled = s.disabled ++ added ∧
      ∀ n, n ∈ added ↔
        (n ∈ s.enabledNames ∧ n ∉ Planning.firstWins s.enabledNames) ∧ n ∉ s.disabled := by
  obtain ⟨added, heq, hadded⟩ := separate_disabled s.enabled.length s
  have hnames : ∀ n, n ∈ s.separated.names ↔ n ∈ s.names := fun n => mem_names_separated
  refine ⟨added, heq, fun n => ⟨fun hn => ?_, fun hn => ?_⟩⟩
  · -- what goes off was spoken of before, and its rival is kept
    obtain ⟨hnew, k, hk, hc⟩ := hadded n hn
    have hoff : n ∈ s.separated.disabled := heq ▸ List.mem_append_right _ hn
    have hmem : n ∈ s.enabledNames :=
      (List.mem_append.1 ((hnames n).1 (List.mem_append_right _ hoff))).resolve_right hnew
    exact ⟨⟨hmem, Planning.not_mem_firstWins_of_rival hk hc⟩, hnew⟩
  · -- no name gets lost, so what is not kept is off
    obtain ⟨⟨hmem, hskip⟩, hnew⟩ := hn
    have hall : n ∈ s.separated.enabledNames ++ s.separated.disabled := (hnames n).2 (List.mem_append_left _ hmem)
    rw [Planning.separated_enabledNames] at hall
    have hoff : n ∈ s.separated.disabled := (List.mem_append.1 hall).resolve_left hskip
    rw [show s.separated.disabled = s.disabled ++ added from heq] at hoff
    exact (List.mem_append.1 hoff).resolve_left hnew

/-- **Repairing is choosing among candidates.** However many turns a repair may take, it stops without a clash; the
linters that it leaves on are, one by one, those that one pass over candidates leaves on; and the names that it puts off
are those that the pass puts off and that were not off before. -/
theorem separated_eq_withoutConflicts (s : LinterSet) (more : Nat) :
    let repaired := s.separate (s.enabled.length + more)
    clashes repaired.enabledNames = [] ∧
      repaired.enabled = (Planning.withoutConflicts s.enabled).enabled ∧
      ∃ added, repaired.disabled = s.disabled ++ added ∧
        ∀ n, n ∈ added ↔ n ∈ (Planning.withoutConflicts s.enabled).disabled ∧ n ∉ s.disabled := by
  intro repaired
  have hrep : repaired = s.separated := separate_eq_separated s more
  obtain ⟨added, heq, hadded⟩ := disabled_separated s
  rw [hrep]
  refine ⟨clashes_separated s, ?_, added, heq, ?_⟩
  · rw [Planning.separated_enabled, Planning.withoutConflicts_enabled]
  · intro n
    rw [hadded, Planning.mem_disabled_withoutConflicts]
    rfl

end LinterSet

/-! ## §4 — repairing a configuration

Conflicts, memory and formats are repaired one after the other. The three touch different fields. -/

namespace Configuration

/-- What a repair makes of a configuration. Only what kept it from being run is replaced. -/
structure IsRepairOf (fixed c : Configuration) : Prop where
  valid : fixed.validate.valid = true
  /-- Linters are only switched off because two of them conflict. -/
  linters : fixed.linters ≠ c.linters →
    ∃ a ∈ c.linters.enabledNames, ∃ b ∈ c.linters.enabledNames, Catalog.conflicts a b = true
  /-- A memory limit is only replaced if it is no size, or too small a one. -/
  memory : fixed.performance.limits.maxMemory ≠ c.performance.limits.maxMemory →
    (∀ megabytes, MemorySize.parse? c.performance.limits.maxMemory = some megabytes → megabytes < 512) ∧
      fixed.performance.limits.maxMemory = "2GB"
  /-- A report format is only added if there is none. -/
  formats : fixed.reporting.formats ≠ c.reporting.formats →
    c.reporting.formats = [] ∧ fixed.reporting.formats = [.json]
  /-- Nothing but these parts is replaced. -/
  frame : fixed = { c with
    linters := { c.linters with enabled := fixed.linters.enabled, disabled := fixed.linters.disabled }
    performance := { c.performance with
      limits := { c.performance.limits with maxMemory := fixed.performance.limits.maxMemory } }
    reporting := { c.reporting with formats := fixed.reporting.formats } }

variable (c : Configuration)

/-- A repaired size is no issue. -/
theorem memoryIssue?_repairMemory : c.repairMemory.memoryIssue? = none := by
  rw [repairMemory]
  split
  · next hnone => exact Option.isNone_iff_eq_none.1 hnone
  · have hleast : MemorySize.least ≤ 2048 := by decide
    refine memoryIssue?_eq_none ?_ hleast
    show MemorySize.parse? MemorySize.fallback = some 2048
    decide

theorem formatsIssue?_repairFormats : c.repairFormats.formatsIssue? = none := by
  rw [repairFormats]
  split
  · next hnone => exact Option.isNone_iff_eq_none.1 hnone
  · rfl

/-- After all three repairs there are no errors. -/
theorem errors_repaired : c.repaired.errors = [] := by
  have hmemory : c.repaired.memoryIssue? = c.repairMemory.memoryIssue? := by
    rw [repaired_eq, memoryIssue?, memoryIssue?]
  have hformats : c.repaired.formatsIssue? = c.repairFormats.formatsIssue? := by
    rw [repaired_eq, formatsIssue?, formatsIssue?]
  refine (errors_eq_nil_iff _).2 ⟨?_, hmemory.trans (memoryIssue?_repairMemory c),
    hformats.trans (formatsIssue?_repairFormats c)⟩
  rw [repaired_eq]
  exact LinterSet.clashes_separated c.linters

theorem autoFix_eq_ok : c.autoFix = .ok c.repaired := by
  rw [autoFix]
  split
  · next hvalid => rw [repaired_eq_self (List.isEmpty_iff.1 hvalid)]
  · have hvalid : c.repaired.isValid = true := List.isEmpty_iff.2 (errors_repaired c)
    rw [if_pos hvalid]

/-- The size is replaced only if it cannot be used. -/
theorem repairMemory_cases : c.repairMemory = c ∨
    (∀ megabytes, MemorySize.parse? c.performance.limits.maxMemory = some megabytes → megabytes < MemorySize.least) ∧
      c.repairMemory.performance =
        { c.performance with limits := { c.performance.limits with maxMemory := MemorySize.fallback } } := by
  rw [repairMemory]
  split
  · exact .inl rfl
  · next hissue =>
    refine .inr ⟨fun megabytes hread => ?_, rfl⟩
    -- a size that suffices would have been no issue
    have hsmall : ¬MemorySize.least ≤ megabytes := by
      intro hleast
      exact hissue (Option.isNone_iff_eq_none.2 (memoryIssue?_eq_none hread hleast))
    omega

/-- Formats are set only if there are none. -/
theorem repairFormats_cases : c.repairFormats = c ∨
    c.reporting.formats = [] ∧ c.repairFormats.reporting = { c.reporting with formats := [.json] } := by
  rw [repairFormats]
  split
  · exact .inl rfl
  · next hissue =>
    refine .inr ⟨?_, rfl⟩
    rw [formatsIssue?] at hissue
    simpa using hissue

theorem exists_conflict_of_separated_ne {s : LinterSet} (h : s.separated ≠ s) :
    ∃ a ∈ s.enabledNames, ∃ b ∈ s.enabledNames, Catalog.conflicts a b = true := by
  cases hclash : clashes s.enabledNames with
  | nil => exact absurd (LinterSet.separated_eq_self hclash) h
  | cons pair pairs =>
    have hpair := Planning.mem_of_mem_clashes (hclash ▸ List.mem_cons_self : pair ∈ clashes s.enabledNames)
    exact ⟨pair.1, hpair.1, pair.2, hpair.2.1, hpair.2.2⟩

/-- What a repair may change, and that all else stays. -/
theorem repaired_frame : c.repaired = { c with
    linters := { c.linters with enabled := c.repaired.linters.enabled, disabled := c.repaired.linters.disabled }
    performance := { c.performance with
      limits := { c.performance.limits with maxMemory := c.repaired.performance.limits.maxMemory } }
    reporting := { c.reporting with formats := c.repaired.reporting.formats } } := by
  -- each repair changes the fields it is about and no other one of its record
  have hlinters : c.linters.separated =
      ⟨c.linters.separated.enabled, c.linters.separated.disabled, c.linters.customRules⟩ := by
    rw [← show c.linters.separated.customRules = c.linters.customRules from LinterSet.separate_customRules _ _]
  have hperformance : c.repairMemory.performance = { c.performance with
      limits := { c.performance.limits with maxMemory := c.repairMemory.performance.limits.maxMemory } } := by
    rcases repairMemory_cases c with hsame | ⟨-, hreplaced⟩
    · rw [hsame]
    · rw [hreplaced]
  have hreporting : c.repairFormats.reporting = { c.reporting with formats := c.repairFormats.reporting.formats } := by
    rcases repairFormats_cases c with hsame | ⟨-, hreplaced⟩
    · rw [hsame]
    · rw [hreplaced]
  rw [repaired_eq]
  show Configuration.mk _ _ _ _ = Configuration.mk _ _ _ _
  rw [Configuration.mk.injEq]
  exact ⟨hlinters, hperformance, hreporting, rfl⟩

/-- The clauses of a repair, each from the step it is about. -/
theorem repaired_isRepairOf : IsRepairOf c.repaired c where
  valid := by
    rw [valid_validate, isValid, errors_repaired]
    rfl
  linters := by
    rw [repaired_eq]
    exact exists_conflict_of_separated_ne
  memory := by
    rw [repaired_eq]
    show c.repairMemory.performance.limits.maxMemory ≠ _ → _ ∧ c.repairMemory.performance.limits.maxMemory = _
    rcases repairMemory_cases c with hsame | ⟨hunusable, hreplaced⟩
    · rw [hsame]
      exact fun hne => absurd rfl hne
    · rw [hreplaced]
      exact fun _ => ⟨hunusable, rfl⟩
  formats := by
    rw [repaired_eq]
    show c.repairFormats.reporting.formats ≠ _ → _ ∧ c.repairFormats.reporting.formats = _
    rcases repairFormats_cases c with hsame | ⟨hnone, hreplaced⟩
    · rw [hsame]
      exact fun hne => absurd rfl hne
    · rw [hreplaced]
      exact fun _ => ⟨hnone, rfl⟩
  frame := repaired_frame c

/-- **A repair always succeeds.** Its turns come to an end, however many it may take; what it makes of a configuration
passes validation and is repaired already; a configuration that was in order is left as it is; and of any other only what
kept it from being run is replaced. -/
theorem autoFix_repairs :
    ∃ fixed, c.autoFix = .ok fixed ∧
      (∀ more, c.linters.separate (c.linters.enabled.length + more) = fixed.linters) ∧
      fixed.IsRepairOf c ∧ fixed.autoFix = .ok fixed ∧ (c.validate.valid = true → fixed = c) := by
  refine ⟨c.repaired, autoFix_eq_ok c, ?_, repaired_isRepairOf c, ?_, ?_⟩
  · intro more
    rw [LinterSet.separate_eq_separated, repaired_eq]
  · rw [autoFix_eq_ok, repaired_eq_self (errors_repaired c)]
  · intro hvalid
    rw [valid_validate, isValid, List.isEmpty_iff] at hvalid
    exact repaired_eq_self hvalid

end Configuration

end LintPlan
