import LintPlan.Execution.Completion
import LintPlan.Proofs.Json.Yielding

/-!
# Counters of 64 bits

Every number that is read of an output fits a counter: in a report a larger one is a fault, in a log it counts as zero.
Their sums need not fit.

* **`read_counted`** — the numbers, by one lemma for each form of output: the lines of a log (`step_counted`, and the
  run lemma `readLog_counted`), and the records of a report (`report_yields`).
* **`add?_eq_some_iff`**, **`foldlM_add?`** — one step of summing up, and all of them: the counters grow, so that no step
  overflows unless the last one does.
* **`counters`** — so there is a summary, and a record of the run, exactly if the totals fit, and then they are exact.
-/

namespace LintPlan

open Json Json.Reading

/-! ## §1 — numbers

Each number that is read fits a machine word. The readers are gone through one by one, and then what is made of their results.
-/

/-- The numbers of a result fit counters. -/
structure LinterResult.Counted (r : LinterResult) : Prop where
  files : r.files ≤ Text.maxWord64
  errors : r.errors ≤ Text.maxWord64
  warnings : r.warnings ≤ Text.maxWord64
  fixable : r.fixable ≤ Text.maxWord64

theorem getD_readNumeral_le (limit : Nat) (cs : List Char) : (Text.readNumeral limit cs).getD 0 ≤ limit := by
  cases h : Text.readNumeral limit cs with
  | none => exact Nat.zero_le _
  | some n =>
    have hle : decide (n ≤ limit) = true := (Option.filter_eq_some_iff.1 h).2
    exact of_decide_eq_true hle

namespace LogLine

theorem countBefore_le (word cs : List Char) : countBefore word cs ≤ Text.maxWord64 := by
  unfold countBefore
  split
  · exact getD_readNumeral_le _ _
  · exact Nat.zero_le _

/-- The counters of a status line fit. -/
theorem status?_counted {line : List Char} {r : LinterResult} (h : status? line = some r) : r.Counted := by
  unfold status? at h
  split at h
  · cases h
  · simp only [Option.bind_eq_bind, Option.bind_eq_some_iff] at h
    obtain ⟨outcome, -, behind, -, named, -, counted, -, h⟩ := h
    split at h
    · cases h
    · cases h
      exact ⟨Nat.zero_le _, countBefore_le _ _, countBefore_le _ _, Nat.zero_le _⟩

/-- Those of a row fit too. -/
theorem row?_counted {line : List Char} {r : LinterResult} (h : row? line = some r) : r.Counted := by
  unfold row? at h
  dsimp only at h
  split at h
  · cases h
  · split at h
    · obtain ⟨outcome, -, rfl⟩ := Option.map_eq_some_iff.1 h
      exact ⟨getD_readNumeral_le _ _, getD_readNumeral_le _ _, getD_readNumeral_le _ _, getD_readNumeral_le _ _⟩
    · cases h

/-- A line that counts as a status line is read as one. -/
theorem status?_of_ofLine {line : List Char} {r : LinterResult} (h : ofLine line = .status r) :
    status? line = some r := by
  unfold ofLine at h
  split at h
  · next r' hr =>
    cases h
    exact hr
  · split at h
    · cases h
    · split at h <;> cases h

/-- A line that counts as a row is read as one. -/
theorem row?_of_ofLine {line : List Char} {r : LinterResult} (h : ofLine line = .row r) : row? line = some r := by
  unfold ofLine at h
  split at h
  · cases h
  · split at h
    · next r' hr =>
      cases h
      exact hr
    · split at h <;> cases h

end LogLine

namespace LinterResult

variable {r s : LinterResult} {results : List LinterResult}

theorem Counted.absorb (hr : r.Counted) (hs : s.Counted) : (r.absorb s).Counted :=
  ⟨Nat.max_le.2 ⟨hr.files, hs.files⟩, Nat.max_le.2 ⟨hr.errors, hs.errors⟩, Nat.max_le.2 ⟨hr.warnings, hs.warnings⟩,
    Nat.max_le.2 ⟨hr.fixable, hs.fixable⟩⟩

/-- A record goes to the end of the results, or into one of them. -/
theorem mem_record {t : LinterResult} (ht : t ∈ r.record results) :
    t = r ∨ t ∈ results ∨ ∃ s ∈ results, t = s.absorb r := by
  induction results with
  | nil =>
    rw [record, List.mem_singleton] at ht
    exact .inl ht
  | cons s results ih =>
    rw [record] at ht
    split at ht
    · rcases List.mem_cons.1 ht with rfl | ht
      · exact .inr (.inr ⟨s, List.mem_cons_self, rfl⟩)
      · exact .inr (.inl (List.mem_cons_of_mem _ ht))
    · rcases List.mem_cons.1 ht with rfl | ht
      · exact .inr (.inl List.mem_cons_self)
      · rcases ih ht with rfl | ht | ⟨u, hu, rfl⟩
        · exact .inl rfl
        · exact .inr (.inl (List.mem_cons_of_mem _ ht))
        · exact .inr (.inr ⟨u, List.mem_cons_of_mem _ hu, rfl⟩)

/-- An issue goes into one of the results. -/
theorem mem_addIssue {name : String} {i : Issue} {t : LinterResult} (ht : t ∈ addIssue name i results) :
    t ∈ results ∨ ∃ s ∈ results, t = { s with issues := i :: s.issues } := by
  induction results with
  | nil => exact .inl ht
  | cons s results ih =>
    rw [addIssue] at ht
    split at ht
    · rcases List.mem_cons.1 ht with rfl | ht
      · exact .inr ⟨s, List.mem_cons_self, rfl⟩
      · exact .inl (List.mem_cons_of_mem _ ht)
    · rcases List.mem_cons.1 ht with rfl | ht
      · exact .inl List.mem_cons_self
      · rcases ih ht with ht | ⟨u, hu, rfl⟩
        · exact .inl (List.mem_cons_of_mem _ ht)
        · exact .inr ⟨u, List.mem_cons_of_mem _ hu, rfl⟩

theorem counted_record (hr : r.Counted) (h : ∀ s ∈ results, s.Counted) : ∀ s ∈ r.record results, s.Counted := by
  intro t ht
  rcases mem_record ht with rfl | ht | ⟨s, hs, rfl⟩
  · exact hr
  · exact h t ht
  · exact (h s hs).absorb hr

/-- The issues of a result do not matter for its numbers. -/
theorem Counted.withIssues (hr : r.Counted) (issues : List Issue) : Counted { r with issues := issues } :=
  ⟨hr.files, hr.errors, hr.warnings, hr.fixable⟩

theorem counted_addIssue (name : String) (i : Issue) (h : ∀ s ∈ results, s.Counted) :
    ∀ s ∈ addIssue name i results, s.Counted := by
  intro t ht
  rcases mem_addIssue ht with ht | ⟨s, hs, rfl⟩
  · exact h t ht
  · exact (h s hs).withIssues _

end LinterResult

/-- **One more line of a log.** -/
theorem LogState.step_counted {s : LogState} (h : ∀ r ∈ s.results, r.Counted) (line : List Char) :
    ∀ r ∈ (s.step line).results, r.Counted := by
  rw [step]
  cases hkind : LogLine.ofLine line with
  | status r => exact LinterResult.counted_record (LogLine.status?_counted (LogLine.status?_of_ofLine hkind)) h
  | row r => exact LinterResult.counted_record (LogLine.row?_counted (LogLine.row?_of_ofLine hkind)) h
  | border => exact h
  | text line =>
    dsimp only
    split
    · exact LinterResult.counted_addIssue _ _ h
    · exact h

/-- So the counters of a whole log fit, by induction over its lines. -/
theorem readLog_counted (output : List Char) : ∀ r ∈ readLog output, r.Counted := by
  have hlines (lines : List (List Char)) (s : LogState) (h : ∀ r ∈ s.results, r.Counted) :
      ∀ r ∈ (lines.foldl LogState.step s).results, r.Counted := by
    induction lines generalizing s with
    | nil => exact h
    | cons line lines ih => exact ih _ (s.step_counted h line)
  intro r hr
  obtain ⟨r', hr', rfl⟩ := List.mem_map.1 hr
  exact (hlines _ ⟨[], none⟩ (fun x hx => absurd hx List.not_mem_nil) r' hr').withIssues _

namespace EmbeddedReport

/-- In an embedded report each counter is read as a machine word. -/
theorem result_yields (fuel : Nat) : Yields (fun x => x.toResult.Counted) (result fuel) := by
  have hcount : Yields (· ≤ Text.maxWord64) count := nat_yields _ _
  have hfields : ∀ f ∈ resultFields fuel, f.Keeps fun x => x.toResult.Counted := by
    simp only [resultFields, List.forall_mem_cons, List.not_mem_nil, false_imp_iff, implies_true, and_true]
    refine ⟨?name, ?status, ?files, ?errors, ?warnings, ?fixable, ?elapsed, ?issues⟩
    case name =>
      exact Field.needed_keeps (yields_true _) _ _ fun x _ hx _ => ⟨hx.files, hx.errors, hx.warnings, hx.fixable⟩
    case status =>
      exact Field.optional_keeps (yields_true _) _ _ fun x _ hx _ => ⟨hx.files, hx.errors, hx.warnings, hx.fixable⟩
    case files => exact Field.optional_keeps hcount _ _ fun x _ hx hv => ⟨hv, hx.errors, hx.warnings, hx.fixable⟩
    case errors => exact Field.optional_keeps hcount _ _ fun x _ hx hv => ⟨hx.files, hv, hx.warnings, hx.fixable⟩
    case warnings => exact Field.optional_keeps hcount _ _ fun x _ hx hv => ⟨hx.files, hx.errors, hv, hx.fixable⟩
    case fixable => exact Field.optional_keeps hcount _ _ fun x _ hx hv => ⟨hx.files, hx.errors, hx.warnings, hv⟩
    case elapsed =>
      exact Field.optional_keeps (yields_true _) _ _ fun x _ hx _ => ⟨hx.files, hx.errors, hx.warnings, hx.fixable⟩
    case issues =>
      exact Field.optional_keeps (yields_true _) _ _ fun x _ hx _ => ⟨hx.files, hx.errors, hx.warnings, hx.fixable⟩
  exact record_yields hfields fuel _ ⟨Nat.zero_le _, Nat.zero_le _, Nat.zero_le _, Nat.zero_le _⟩

theorem report_yields (fuel : Nat) : Yields (fun xs => ∀ x ∈ xs, x.toResult.Counted) (report fuel) := by
  have hlinters := list_yields (result_yields fuel) fuel
  refine record_yields (fun f hf => ?_) fuel _ fun x hx => absurd hx List.not_mem_nil
  rw [List.mem_singleton] at hf
  subst hf
  exact Field.needed_keeps hlinters _ _ fun _ xs _ hxs => hxs

end EmbeddedReport

/-- **Every number that is read of an output fits a counter.** -/
theorem OutputReading.read_counted (output : List Char) : ∀ r ∈ (read output).results, r.Counted := by
  have hlog (warnings : List OutputWarning) : ∀ r ∈ (ofLog output warnings).results, r.Counted := by
    rw [ofLog]
    split <;> exact readLog_counted output
  rw [read]
  split
  · exact hlog _
  · split
    · next results hread =>
      obtain ⟨⟨reported, c⟩, hreport, hresults⟩ := map_eq_ok hread
      cases hresults
      intro r hr
      obtain ⟨x, hx, rfl⟩ := List.mem_map.1 hr
      exact EmbeddedReport.report_yields _ hreport x hx
    · exact hlog _

/-! ## §2 — sums

A sum need not fit even if its parts do. Sums are therefore partial, and here is exactly when they are defined. -/

theorem counterSum?_eq_some_iff {a b n : Nat} : counterSum? a b = some n ↔ n = a + b ∧ n ≤ Text.maxWord64 := by
  unfold counterSum?
  split
  · next h =>
    rw [Option.some.injEq]
    exact ⟨fun he => ⟨he.symm, he ▸ h⟩, fun he => he.1.symm⟩
  · next h => exact ⟨fun he => absurd he (by nofun), fun he => absurd (he.1 ▸ he.2) h⟩

/-- The issues of a linter are counted when its errors and warnings fit together. The number of issues that were collected is
that of a list, and no bound on it is needed. -/
theorem LinterResult.issueCount?_eq_some_iff {r : LinterResult} {n : Nat} :
    r.issueCount? = some n ↔ n = r.issueCount ∧ r.errors + r.warnings ≤ Text.maxWord64 := by
  rw [issueCount?, Option.map_eq_some_iff]
  constructor
  · rintro ⟨reported, hreported, rfl⟩
    obtain ⟨rfl, hle⟩ := counterSum?_eq_some_iff.1 hreported
    exact ⟨rfl, hle⟩
  · rintro ⟨rfl, hle⟩
    exact ⟨_, counterSum?_eq_some_iff.2 ⟨rfl, hle⟩, rfl⟩

namespace Summary

/-- The numbers that are added up fit counters. -/
structure Fits (x : Summary) : Prop where
  files : x.files ≤ Text.maxWord64
  issues : x.issues ≤ Text.maxWord64
  fixable : x.fixable ≤ Text.maxWord64

/-- The summary with the numbers of results added, however large they are. -/
def plus (x : Summary) (results : List LinterResult) : Summary :=
  { x with
    files := x.files + total (results.map (·.files))
    issues := x.issues + total (results.map LinterResult.issueCount)
    fixable := x.fixable + total (results.map LinterResult.fixableCount) }

theorem plus_cons (x : Summary) (r : LinterResult) (results : List LinterResult) :
    x.plus (r :: results) = (x.plus [r]).plus results := by
  simp only [plus, total, List.map_cons, List.map_nil, List.foldr_cons, List.foldr_nil, Nat.add_zero, Nat.add_assoc]

/-- More results never make numbers fit. -/
theorem Fits.of_plus {x : Summary} {results : List LinterResult} (h : (x.plus results).Fits) : x.Fits :=
  ⟨Nat.le_of_add_right_le h.files, Nat.le_of_add_right_le h.issues, Nat.le_of_add_right_le h.fixable⟩

/-- **One step of summing up**: it overflows exactly if a number does not fit then. -/
theorem add?_eq_some_iff {x y : Summary} {r : LinterResult} :
    x.add? r = some y ↔ y = x.plus [r] ∧ (x.plus [r]).Fits := by
  have hreported : r.errors + r.warnings ≤ r.issueCount := Nat.le_max_left _ _
  simp only [add?, Option.bind_eq_bind, Option.bind_eq_some_iff, counterSum?_eq_some_iff,
    LinterResult.issueCount?_eq_some_iff, Option.some.injEq]
  constructor
  · rintro ⟨files, ⟨rfl, hfiles⟩, count, ⟨rfl, -⟩, issues, ⟨rfl, hissues⟩, fixable, ⟨rfl, hfixable⟩, rfl⟩
    exact ⟨rfl, hfiles, hissues, hfixable⟩
  · rintro ⟨rfl, hfiles, hissues, hfixable⟩
    have hcount : r.errors + r.warnings ≤ Text.maxWord64 := by
      have hle : x.issues + r.issueCount ≤ Text.maxWord64 := hissues
      omega
    exact ⟨_, ⟨rfl, hfiles⟩, _, ⟨rfl, hcount⟩, _, ⟨rfl, hissues⟩, _, ⟨rfl, hfixable⟩, rfl⟩

/-- **All steps**: none of them overflows unless the numbers do not fit in the end. -/
theorem foldlM_add? {x y : Summary} (hx : x.Fits) (results : List LinterResult) :
    results.foldlM add? x = some y ↔ y = x.plus results ∧ (x.plus results).Fits := by
  induction results generalizing x with
  | nil =>
    rw [List.foldlM_nil]
    exact ⟨fun h => ⟨(Option.some.inj h).symm, hx⟩, fun h => congrArg some h.1.symm⟩
  | cons r results ih =>
    rw [List.foldlM_cons, plus_cons]
    constructor
    · intro h
      obtain ⟨z, hz, hrest⟩ := Option.bind_eq_some_iff.1 h
      obtain ⟨rfl, hfits⟩ := add?_eq_some_iff.1 hz
      exact (ih hfits).1 hrest
    · rintro ⟨rfl, hfits⟩
      have hstep : x.add? r = some (x.plus [r]) := add?_eq_some_iff.2 ⟨rfl, hfits.of_plus⟩
      rw [hstep]
      exact (ih hfits.of_plus).2 ⟨rfl, hfits⟩

/-- **Summing up gives the totals if they fit, and nothing else.** -/
theorem ofResults?_eq_some_iff {results : List LinterResult} {x : Summary} :
    ofResults? results = some x ↔ x = ofResults results ∧ (ofResults results).Fits := by
  have hplus : ({ ofResults results with files := 0, issues := 0, fixable := 0 } : Summary).plus results =
      ofResults results := by
    simp only [plus, Nat.zero_add]
    rfl
  rw [ofResults?, foldlM_add? ⟨Nat.zero_le _, Nat.zero_le _, Nat.zero_le _⟩, hplus]

/-- There is no summary exactly when some sum does not fit. -/
theorem ofResults?_eq_none_iff {results : List LinterResult} :
    ofResults? results = none ↔ ¬ (ofResults results).Fits := by
  constructor
  · intro hnone hfits
    have hsome := ofResults?_eq_some_iff.2 ⟨rfl, hfits⟩
    rw [hnone] at hsome
    cases hsome
  · intro hfits
    cases h : ofResults? results with
    | none => rfl
    | some x => exact absurd (ofResults?_eq_some_iff.1 h).2 hfits

end Summary

/-! ## §3 — records and outputs

Both parts for what a run gives back. -/

section
variable {k : Captured} {stamp : Stamp} {c : Configuration} {profile : Option Profile}

/-- A completed run has a record if the totals fit, and then the record has the totals. -/
theorem Captured.results?_eq_some_iff {r : RunResults} : k.results? stamp c profile = some r ↔
    r = k.results stamp c profile ∧ (Summary.ofResults k.reading.results).Fits := by
  rw [results?, Option.map_eq_some_iff]
  constructor
  · rintro ⟨x, hx, rfl⟩
    obtain ⟨rfl, hfits⟩ := Summary.ofResults?_eq_some_iff.1 hx
    exact ⟨rfl, hfits⟩
  · rintro ⟨rfl, hfits⟩
    exact ⟨_, Summary.ofResults?_eq_some_iff.2 ⟨rfl, hfits⟩, rfl⟩

theorem Captured.results?_eq_none_iff :
    k.results? stamp c profile = none ↔ ¬ (Summary.ofResults k.reading.results).Fits := by
  rw [results?, Option.map_eq_none_iff]
  exact Summary.ofResults?_eq_none_iff

end

/-- **Counters overflow exactly if the totals do not fit.** Of any output, every number by itself fits a counter. There is
a summary if and only if the totals fit as well, and then its numbers are the totals; a run whose output is read like this
has a record if and only if there is a summary. -/
theorem OutputReading.counters (output : List Char) :
    (∀ r ∈ (read output).results, r.Counted) ∧
      (∀ x, Summary.ofResults? (read output).results = some x ↔
        x = .ofResults (read output).results ∧ (Summary.ofResults (read output).results).Fits) ∧
      ∀ (k : Captured) (stamp : Stamp) (c : Configuration) (profile : Option Profile), k.reading = read output →
        (k.results? stamp c profile = none ↔ ¬ (Summary.ofResults (read output).results).Fits) ∧
          ∀ r, k.results? stamp c profile = some r → r = k.results stamp c profile := by
  refine ⟨read_counted output, fun x => Summary.ofResults?_eq_some_iff, fun k stamp c profile hreading => ?_⟩
  rw [← hreading]
  exact ⟨Captured.results?_eq_none_iff, fun r hr => (Captured.results?_eq_some_iff.1 hr).1⟩

/-- One linter that reports more errors and warnings than a counter can hold. -/
def crowdedReport : List Char :=
  "\x7b\"linters\":[\x7b\"name\":\"a\",\"errors\":18446744073709551615,\"warnings\":1\x7d]\x7d".toList

/-- Two linters that report more errors than a counter can hold, but neither of them alone. -/
def crowdedLog : List Char :=
  "❌ Linted [X] files with [a]: 18446744073709551615 errors\n❌ Linted [X] files with [b]: 1 error\n".toList

/-- Every counter of the two outputs fits, and a sum does not: in the report that of one linter, in the log that of two. -/
theorem OutputReading.counters_overflow :
    ((read crowdedReport).results.map fun r => (r.errors, r.warnings)) = [(18446744073709551615, 1)] ∧
      (read crowdedReport).results.map LinterResult.issueCount? = [none] ∧
      Summary.ofResults? (read crowdedReport).results = none ∧
      (read crowdedLog).results.map LinterResult.issueCount? = [some 18446744073709551615, some 1] ∧
      Summary.ofResults? (read crowdedLog).results = none := by
  have hreport : read crowdedReport = ⟨[⟨"a", .failed, 0, 18446744073709551615, 1, 0, none, []⟩], []⟩ := by
    decide
  have hlog : read crowdedLog =
      ⟨[⟨"a", .failed, 0, 18446744073709551615, 0, 0, none, []⟩, ⟨"b", .failed, 0, 1, 0, 0, none, []⟩], []⟩ := by
    decide +kernel
  rw [hreport, hlog]
  decide

end LintPlan
