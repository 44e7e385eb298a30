import LintPlan.Proofs.Report.Findings
import Mathlib.Algebra.Order.BigOperators.Group.List
import Mathlib.Algebra.Order.Group.Nat

/-!
# Summaries add up

A summary takes its numbers from two sources: findings are counted from what a linter reports or from what was collected of
it, whichever is more, and severities from what was collected alone. Both are sums over the linters, so that

* **`ofResults_append`** — the summary of two lists is the sum of their summaries, field by field;
* **`ofResults_perm`** — the order of the linters does not matter;
* **`tallies_ofResults`** — the numbers of one summary agree with each other and with the results;
* **`adds_up`** — and all of this holds of the summary that is made, as long as the totals fit their counters.
-/

namespace LintPlan

namespace Summary

variable {a b results : List LinterResult}

/-! ## §1 — severities

Issues are counted by severity, and severities without issues are left out of the table. -/

theorem severityCount_append (a b : List LinterResult) (s : IssueSeverity) :
    severityCount (a ++ b) s = severityCount a s + severityCount b s := by
  simp only [severityCount, total_eq_sum, List.map_append, List.sum_append]

theorem severityCount_perm (h : a.Perm b) (s : IssueSeverity) : severityCount a s = severityCount b s :=
  (h.map _).foldr_eq 0

/-- Every issue has exactly one severity. -/
theorem total_countP_severity (issues : List Issue) :
    total (IssueSeverity.all.map fun s => issues.countP fun i => i.severity == s) = issues.length := by
  induction issues with
  | nil => rfl
  | cons i issues ih =>
    have hone : total (IssueSeverity.all.map fun s => if (i.severity == s) = true then 1 else 0) = 1 := by
      cases i.severity <;> rfl
    simp only [List.countP_cons]
    rw [total_eq_sum, List.sum_map_add, ← total_eq_sum, ← total_eq_sum, ih, hone, List.length_cons]

theorem total_severityCount (results : List LinterResult) :
    total (IssueSeverity.all.map (severityCount results)) = (results.flatMap (·.issues)).length := by
  induction results with
  | nil => rfl
  | cons r results ih =>
    have hsplit : ∀ s, severityCount (r :: results) s =
        (r.issues.countP fun i => i.severity == s) + severityCount results s := fun _ => rfl
    rw [funext hsplit, total_eq_sum, List.sum_map_add, ← total_eq_sum, ← total_eq_sum, total_countP_severity, ih, List.flatMap_cons, List.length_append]

/-- The entry for a severity, if it has issues. -/
def entryOf (results : List LinterResult) (s : IssueSeverity) : Option Nat :=
  if 0 < severityCount results s then some (severityCount results s) else none

/-- The table has a severity exactly if there are issues of it. -/
theorem lookup_bySeverity (results : List LinterResult) (s : IssueSeverity) :
    (ofResults results).bySeverity.lookup s = entryOf results s := by
  have hkeys : ∀ keys : List IssueSeverity,
      ((keys.map fun k => (k, severityCount results k)).filter fun e => 0 < e.2).lookup s =
        if s ∈ keys then entryOf results s else none := by
    intro keys
    induction keys with
    | nil => rfl
    | cons k keys ih =>
      rw [List.map_cons, List.filter_cons]
      by_cases hk : s = k
      · subst hk
        by_cases hpos : 0 < severityCount results s
        · simp [entryOf, hpos]
        · simp only [hpos, decide_false, Bool.false_eq_true, if_false, ih]
          simp [entryOf, hpos]
      · have hbeq : (s == k) = false := beq_eq_false_iff_ne.mpr hk
        split <;> simp [List.lookup_cons, hbeq, ih, hk]
  have hall : s ∈ IssueSeverity.all := by cases s <;> decide
  exact (hkeys IssueSeverity.all).trans (if_pos hall)

/-! ## §2 — the sum of two summaries

Summaries are added field by field, tables by merging. -/

/-- Counts by severity added up: a severity is in the sum if it is in one of the two. -/
def mergeCounts (x y : List (IssueSeverity × Nat)) : List (IssueSeverity × Nat) :=
  IssueSeverity.all.filterMap fun s => (Option.merge (· + ·) (x.lookup s) (y.lookup s)).map fun n => (s, n)

/-- Two summaries added up, field by field. -/
instance : Add Summary where
  add x y :=
    { linters := x.linters + y.linters
      passed := x.passed + y.passed
      failed := x.failed + y.failed
      files := x.files + y.files
      issues := x.issues + y.issues
      fixable := x.fixable + y.fixable
      bySeverity := mergeCounts x.bySeverity y.bySeverity }

/-- Entries of two lists, added where both have one. -/
theorem merge_entryOf (a b : List LinterResult) (s : IssueSeverity) :
    Option.merge (· + ·) (entryOf a s) (entryOf b s) = entryOf (a ++ b) s := by
  simp only [entryOf, severityCount_append]
  -- a severity without issues in one of the lists has the issues of the other
  by_cases ha : 0 < severityCount a s <;> by_cases hb : 0 < severityCount b s
  · simp [ha, hb, show 0 < severityCount a s + severityCount b s by omega]
  · simp [ha, show severityCount b s = 0 by omega]
  · simp [hb, show severityCount a s = 0 by omega]
  · simp [show severityCount a s = 0 by omega, show severityCount b s = 0 by omega]

theorem bySeverity_append (a b : List LinterResult) :
    (ofResults (a ++ b)).bySeverity = mergeCounts (ofResults a).bySeverity (ofResults b).bySeverity := by
  simp only [mergeCounts, lookup_bySeverity, merge_entryOf]
  show (IssueSeverity.all.map fun s => (s, severityCount (a ++ b) s)).filter (fun e => 0 < e.2) = _
  rw [← List.filterMap_eq_filter, List.filterMap_map]
  refine List.filterMap_congr fun s _ => ?_
  by_cases hpos : 0 < severityCount (a ++ b) s <;> simp [entryOf, Option.guard, hpos]

/-- **The summary of two lists is the sum of their summaries.** -/
theorem ofResults_append (a b : List LinterResult) : ofResults (a ++ b) = ofResults a + ofResults b := by
  have hseverities := bySeverity_append a b
  show ofResults (a ++ b) = Summary.mk _ _ _ _ _ _ (mergeCounts _ _)
  rw [← hseverities]
  simp only [ofResults, List.length_append, List.countP_append, List.map_append, total_eq_sum, List.sum_append]

/-- **The order of the linters does not matter.** -/
theorem ofResults_perm (h : a.Perm b) : ofResults a = ofResults b := by
  have hcount : severityCount a = severityCount b := funext fun s => severityCount_perm h s
  simp only [ofResults, h.length_eq, h.countP_eq, hcount, total_eq_sum, (h.map _).sum_nat]

theorem Fits.of_append (h : (ofResults (a ++ b)).Fits) : (ofResults a).Fits ∧ (ofResults b).Fits := by
  rw [ofResults_append] at h
  obtain ⟨hfiles, hissues, hfixable⟩ := h
  constructor
  · exact ⟨Nat.le_of_add_right_le hfiles, Nat.le_of_add_right_le hissues, Nat.le_of_add_right_le hfixable⟩
  · exact ⟨Nat.le_of_add_left_le hfiles, Nat.le_of_add_left_le hissues, Nat.le_of_add_left_le hfixable⟩

/-! ## §3 — the numbers of one summary

How the numbers of a summary fit together. -/

/-- How the numbers of a summary go with each other and with the results. -/
structure Tallies (results : List LinterResult) (x : Summary) : Prop where
  outcomes : x.passed + x.failed = x.linters
  collected : total (x.bySeverity.map Prod.snd) = (results.flatMap (·.issues)).length
  positive : ∀ e ∈ x.bySeverity, 0 < e.2
  bounded : total (x.bySeverity.map Prod.snd) ≤ x.issues
  clean : x.issues = 0 ↔ ∀ r ∈ results, r.errors = 0 ∧ r.warnings = 0 ∧ r.issues = []

theorem passed_add_failed (results : List LinterResult) :
    (ofResults results).passed + (ofResults results).failed = (ofResults results).linters := by
  show (results.countP fun r => r.outcome == .success) + (results.countP fun r => r.outcome == .failed) = results.length
  induction results with
  | nil => rfl
  | cons r results ih =>
    simp only [List.countP_cons, List.length_cons, ← ih]
    cases r.outcome <;> simp <;> omega

theorem total_bySeverity (results : List LinterResult) :
    total ((ofResults results).bySeverity.map Prod.snd) = (results.flatMap (·.issues)).length := by
  have hpos : (fun e : IssueSeverity × Nat => decide (0 < e.2)) = (fun n => n != 0) ∘ Prod.snd := by
    funext e
    rw [Function.comp_apply, Bool.eq_iff_iff, decide_eq_true_iff, bne_iff_ne, Nat.pos_iff_ne_zero]
  -- severities without an issue have no entry, and would add nothing
  rw [← total_severityCount, ofResults, hpos, ← List.filter_map, total_eq_sum, List.sum_filter_bne_zero, List.map_map, total_eq_sum]
  rfl

/-- Of each linter there are at least as many findings as were collected. -/
theorem collected_le_issues (results : List LinterResult) :
    (results.flatMap (·.issues)).length ≤ (ofResults results).issues := by
  show _ ≤ total (results.map LinterResult.issueCount)
  rw [List.length_flatMap, total_eq_sum]
  exact List.sum_le_sum fun r _ => Nat.le_max_right _ _

/-- There are no issues exactly if no linter counts or lists any. -/
theorem issues_eq_zero_iff : (ofResults results).issues = 0 ↔
    ∀ r ∈ results, r.errors = 0 ∧ r.warnings = 0 ∧ r.issues = [] := by
  have hnone : (ofResults results).issues = 0 ↔ ¬ ∃ r ∈ results, r.FindsSomething := by
    rw [← issues_pos_iff]
    omega
  rw [hnone]
  constructor
  · intro h r hr
    have hr : ¬ r.FindsSomething := fun hfinds => h ⟨r, hr, hfinds⟩
    simp only [LinterResult.FindsSomething, not_or, Nat.pos_iff_ne_zero, not_not] at hr
    exact hr
  · rintro h ⟨r, hr, hfinds⟩
    obtain ⟨herrors, hwarnings, hissues⟩ := h r hr
    rw [LinterResult.FindsSomething, herrors, hwarnings, hissues] at hfinds
    simp at hfinds

theorem tallies_ofResults (results : List LinterResult) : Tallies results (ofResults results) where
  outcomes := passed_add_failed results
  collected := total_bySeverity results
  positive := fun _ he => of_decide_eq_true (List.mem_filter.mp he).2
  bounded := total_bySeverity results ▸ collected_le_issues results
  clean := issues_eq_zero_iff

/-! ## §4 — the summary that is made

The same for the summary with machine words, where it is defined. -/

/-- **Summaries add up.** If the totals of two lists of results together fit their counters, there is a summary of each list and
of both together, which is the sum of the two; it is the same in every order of the results; and its numbers agree with each
other and with the results. -/
theorem adds_up (a b : List LinterResult) (h : (ofResults (a ++ b)).Fits) :
    ∃ x y z, ofResults? a = some x ∧ ofResults? b = some y ∧ ofResults? (a ++ b) = some z ∧ z = x + y ∧
      (∀ c, c.Perm (a ++ b) → ofResults? c = some z) ∧ Tallies (a ++ b) z := by
  obtain ⟨ha, hb⟩ := h.of_append
  refine ⟨ofResults a, ofResults b, ofResults (a ++ b), ?_, ?_, ?_, ofResults_append a b, ?_, tallies_ofResults _⟩
  · exact ofResults?_eq_some_iff.2 ⟨rfl, ha⟩
  · exact ofResults?_eq_some_iff.2 ⟨rfl, hb⟩
  · exact ofResults?_eq_some_iff.2 ⟨rfl, h⟩
  · intro c hc
    rw [← ofResults_perm hc] at h ⊢
    exact ofResults?_eq_some_iff.2 ⟨rfl, h⟩

/-- A failed linter with more errors than issues that were collected. -/
def failedLinter : LinterResult :=
  ⟨"eslint", .failed, 4, 2, 0, 0, none, [⟨"src/a.ts", some 3, none, .critical, none, "x is not defined", true⟩]⟩

/-- A linter that ended well and has an issue without having reported it. -/
def silentLinter : LinterResult :=
  ⟨"prettier", .success, 6, 0, 0, 0, none, [⟨"src/b.ts", none, none, .low, none, "format", true⟩]⟩

theorem adds_up_silentLinter : (ofResults ([failedLinter] ++ [silentLinter])).Fits ∧
    ∃ x y z, ofResults? [failedLinter] = some x ∧ ofResults? [silentLinter] = some y ∧
      ofResults? ([failedLinter] ++ [silentLinter]) = some z ∧ z = x + y ∧
      ofResults? [silentLinter, failedLinter] = some z ∧ z.issues = 3 ∧ z.bySeverity = [(.low, 1), (.critical, 1)] := by
  have hfits : (ofResults ([failedLinter] ++ [silentLinter])).Fits := ⟨by decide, by decide, by decide⟩
  obtain ⟨x, y, z, hx, hy, hz, hsum, hperm, -⟩ := adds_up [failedLinter] [silentLinter] hfits
  have hissues : z.issues = 3 ∧ z.bySeverity = [(.low, 1), (.critical, 1)] := by
    rw [(ofResults?_eq_some_iff.1 hz).1]
    decide
  exact ⟨hfits, x, y, z, hx, hy, hz, hsum, hperm _ (List.Perm.swap ..), hissues⟩

end Summary

end LintPlan
