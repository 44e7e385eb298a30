import Mathlib.Tactic.IntervalCases
import LintPlan.Document.Results
import LintPlan.Proofs.Document.Denoting
import LintPlan.Validation

/-!
# Results, configurations and reports are read back

What is written for a completed run, for a configuration or for a report of a validation denotes it. This is proved record by
record, from the inside to the outside, and field by field within a record (`Proofs/Document/Denoting`).

* **`WellFormed`**, one for each record with numbers or maps — counters fit their words, the keys of a map are in order, and the
  confidence of a profile is that of some findings. Nothing else is asked of a value: texts are any, and what may be absent or empty
  may be so.
* **`toJson_denotes`**, one for each record.
* **`documents_read_back`** — the texts of all three are parsed as what was written.
-/

namespace LintPlan

open Json

variable {levels : Nat}

/-! ## §1 — configurations

For each record, `sheet` says which fields are written, with which values. The proofs go through the sheet field by field and
name what each field denotes; which fields may be left out is seen from the constructors. -/

namespace Linter

def sheet (l : Linter) : Sheet :=
  [("name", some (.str l.name)), ("language", l.language.map fun x => .str x.name), ("category", some (.str l.category.name)),
   ("severity", some (.str l.severity.name)), ("enabled", some (.bool l.enabled)), ("rules", some (texts l.rules)),
   ("include", some (texts l.scope)), ("exclude", some (texts l.outOfScope))]

theorem toJson_denotes (l : Linter) : Denotes (levels + 2) ofJson? l.toJson l := by
  refine .record l.sheet (by simp [toJson, sheet]) (fun _ => rfl) (by simp [sheet, Sheet.names]) ?_
  exact .cons (.required (denotes_text _)) <|
    .cons (.option (fun _ _ => denotes_choice Language.ofName?_name _) nofun) <|
    .cons (.required (denotes_choice Category.ofName?_name _)) <|
    .cons (.required (denotes_choice Severity.ofName?_name _)) <|
    .cons (.required (denotes_bool _)) <|
    .cons (.written (denotes_texts _) _) <|
    .cons (.written (denotes_texts _) _) <|
    .cons (.written (denotes_texts _) _) .nil

end Linter

namespace LinterSet

def sheet (s : LinterSet) : Sheet :=
  [("enabled", some (.arr (s.enabled.map Linter.toJson))), ("disabled", some (texts s.disabled)),
   ("custom_rules", some (textLists s.customRules))]

theorem toJson_denotes {s : LinterSet} (h : InOrder s.customRules) : Denotes (levels + 4) ofJson? s.toJson s := by
  refine .record s.sheet rfl (fun _ => rfl) (by simp [sheet, Sheet.names]) ?_
  exact .cons (.required (.list fun l _ => l.toJson_denotes)) <|
    .cons (.required (denotes_texts _)) <|
    .cons (.written (.textMap h fun e _ => denotes_texts e.2) _) .nil

end LinterSet

namespace ResourceLimits

def sheet (l : ResourceLimits) : Sheet := [("max_memory", some (.str l.maxMemory)), ("max_cpus", some (nat l.maxCpus))]

theorem toJson_denotes {l : ResourceLimits} (h : l.maxCpus ≤ Text.maxWord32) : Denotes (levels + 1) ofJson? l.toJson l := by
  refine .record l.sheet rfl (fun _ => rfl) (by simp [sheet, Sheet.names]) ?_
  exact .cons (.required (denotes_text _)) <|
    .cons (.required (denotes_word32 h)) .nil

end ResourceLimits

namespace Performance

/-- Do the numbers of a budget fit their words? -/
structure WellFormed (p : Performance) : Prop where
  maxExecutionTime : p.maxExecutionTime ≤ Text.maxWord64
  parallelism : p.parallelism ≤ Text.maxWord32
  maxCpus : p.limits.maxCpus ≤ Text.maxWord32

def sheet (p : Performance) : Sheet :=
  [("max_execution_time", some (nat p.maxExecutionTime)), ("parallelism", some (nat p.parallelism)),
   ("resource_limits", some p.limits.toJson), ("cache_strategy", some (.str p.cache.name)),
   ("incremental_scanning", some (.bool p.incremental))]

theorem toJson_denotes {p : Performance} (h : p.WellFormed) : Denotes (levels + 2) ofJson? p.toJson p := by
  refine .record p.sheet rfl (fun _ => rfl) (by simp [sheet, Sheet.names]) ?_
  exact .cons (.required (denotes_word64 h.maxExecutionTime)) <|
    .cons (.required (denotes_word32 h.parallelism)) <|
    .cons (.required (ResourceLimits.toJson_denotes h.maxCpus)) <|
    .cons (.required (denotes_choice CacheStrategy.ofName?_name _)) <|
    .cons (.required (denotes_bool _)) .nil

end Performance

namespace Reporting

def sheet (x : Reporting) : Sheet :=
  [("formats", some (.arr (x.formats.map fun f => .str f.name))), ("output_dir", some (.str x.outputDir)),
   ("show_passed", some (.bool x.showPassed))]

theorem toJson_denotes (x : Reporting) : Denotes (levels + 2) ofJson? x.toJson x := by
  refine .record x.sheet (by simp [toJson, sheet, texts]) (fun _ => rfl) (by simp [sheet, Sheet.names]) ?_
  exact .cons (.required (.list fun _ _ => denotes_choice ReportFormat.ofName?_name _)) <|
    .cons (.required (denotes_text _)) <|
    .cons (.required (denotes_bool _)) .nil

end Reporting

namespace Security

def sheet (s : Security) : Sheet :=
  [("enabled", some (.bool s.enabled)), ("severity_threshold", some (.str s.severityThreshold.name)),
   ("secret_scanning", some (.bool s.secretScanning)), ("dependency_scanning", some (.bool s.dependencyScanning))]

theorem toJson_denotes (s : Security) : Denotes (levels + 1) ofJson? s.toJson s := by
  refine .record s.sheet rfl (fun _ => rfl) (by simp [sheet, Sheet.names]) ?_
  exact .cons (.required (denotes_bool _)) <|
    .cons (.required (denotes_choice Severity.ofName?_name _)) <|
    .cons (.required (denotes_bool _)) <|
    .cons (.required (denotes_bool _)) .nil

end Security

namespace Configuration

/-- Do the numbers of a configuration fit their words, and are its rules in the order of their linters? -/
structure WellFormed (c : Configuration) : Prop where
  customRules : InOrder c.linters.customRules
  performance : c.performance.WellFormed

def sheet (c : Configuration) : Sheet :=
  [("linters", some c.linters.toJson), ("performance", some c.performance.toJson), ("reporting", some c.reporting.toJson),
   ("security", some c.security.toJson)]

theorem toJson_denotes {c : Configuration} (h : c.WellFormed) : Denotes (levels + 5) ofJson? c.toJson c := by
  refine .record c.sheet rfl (fun _ => rfl) (by simp [sheet, Sheet.names]) ?_
  exact .cons (.required (LinterSet.toJson_denotes h.customRules)) <|
    .cons (.required (Performance.toJson_denotes h.performance)) <|
    .cons (.required c.reporting.toJson_denotes) <|
    .cons (.required c.security.toJson_denotes) .nil

end Configuration

/-! ## §2 — profiles

A profile has the one number that is no integer, its confidence. It is some tenths, for which the shortest text is known. -/

namespace LanguageStat

/-- Do the counts of a language fit their words? -/
structure WellFormed (s : LanguageStat) : Prop where
  files : s.files ≤ Text.maxWord64
  lines : s.lines ≤ Text.maxWord64

def sheet (s : LanguageStat) : Sheet :=
  [("language", some (.str s.language.name)), ("files", some (nat s.files)), ("lines", some (nat s.lines))]

theorem toJson_denotes {s : LanguageStat} (h : s.WellFormed) : Denotes (levels + 1) ofJson? s.toJson s := by
  refine .record s.sheet rfl (fun _ => rfl) (by simp [sheet, Sheet.names]) ?_
  exact .cons (.required (denotes_choice Language.ofName?_name _)) <|
    .cons (.required (denotes_word64 h.files)) <|
    .cons (.required (denotes_word64 h.lines)) .nil

end LanguageStat

namespace Framework

def sheet (f : Framework) : Sheet :=
  [("name", some (.str f.name)), ("language", some (.str f.language.name)), ("source", some (.str f.source))]

theorem toJson_denotes (f : Framework) : Denotes (levels + 1) ofJson? f.toJson f := by
  refine .record f.sheet rfl (fun _ => rfl) (by simp [sheet, Sheet.names]) ?_
  exact .cons (.required (denotes_text _)) <|
    .cons (.required (denotes_choice Language.ofName?_name _)) <|
    .cons (.required (denotes_text _)) .nil

end Framework

namespace BuildTool

def sheet (t : BuildTool) : Sheet := [("name", some (.str t.name)), ("file", some (.str t.file))]

theorem toJson_denotes (t : BuildTool) : Denotes (levels + 1) ofJson? t.toJson t := by
  refine .record t.sheet rfl (fun _ => rfl) (by simp [sheet, Sheet.names]) ?_
  exact .cons (.required (denotes_text _)) <|
    .cons (.required (denotes_text _)) .nil

end BuildTool

namespace ConfigFile

def sheet (f : ConfigFile) : Sheet :=
  [("path", some (.str f.path)), ("type", some (.str f.kind.name)), ("importance", some (.str f.importance.name))]

theorem toJson_denotes (f : ConfigFile) : Denotes (levels + 1) ofJson? f.toJson f := by
  refine .record f.sheet rfl (fun _ => rfl) (by simp [sheet, Sheet.names]) ?_
  exact .cons (.required (denotes_text _)) <|
    .cons (.required (denotes_choice ConfigKind.ofName?_name _)) <|
    .cons (.required (denotes_choice Importance.ofName?_name _)) .nil

end ConfigFile

namespace RepoStats

/-- Do the counts of a walk fit their words? -/
structure WellFormed (s : RepoStats) : Prop where
  files : s.files ≤ Text.maxWord64
  directories : s.directories ≤ Text.maxWord64
  maxDepth : s.maxDepth ≤ Text.maxWord64
  totalLines : s.totalLines ≤ Text.maxWord64

def sheet (s : RepoStats) : Sheet :=
  [("files", some (nat s.files)), ("directories", some (nat s.directories)), ("max_depth", some (nat s.maxDepth)),
   ("total_lines", some (nat s.totalLines))]

theorem toJson_denotes {s : RepoStats} (h : s.WellFormed) : Denotes (levels + 1) ofJson? s.toJson s := by
  refine .record s.sheet rfl (fun _ => rfl) (by simp [sheet, Sheet.names]) ?_
  exact .cons (.required (denotes_word64 h.files)) <|
    .cons (.required (denotes_word64 h.directories)) <|
    .cons (.required (denotes_word64 h.maxDepth)) <|
    .cons (.required (denotes_word64 h.totalLines)) .nil

end RepoStats

/-- The text of a number of tenths. -/
def tenthsText (n : Nat) : NumberText := ⟨false, [Nat.digitChar (n / 10)], some [Nat.digitChar (n % 10)], none⟩

theorem areDigits_digitChar {m : Nat} (h : m < 10) : AreDigits [Nat.digitChar m] := by
  have hdigits : ∀ m < 10, (Nat.digitChar m).isDigit = true := by decide
  exact ⟨List.cons_ne_nil _ _, by simpa using hdigits m h⟩

theorem isUsual_tenthsText {n : Nat} (h : n ≤ 10) : (tenthsText n).IsUsual where
  whole := areDigits_digitChar (by omega)
  noZeros := by interval_cases n <;> decide
  fraction := by
    rintro ds ⟨⟩
    exact areDigits_digitChar (by omega)
  exponent := rfl

/-- At most ten tenths are written with one digit behind the point, and that text denotes the float closest to them. -/
theorem tenthsText_denotes {n : Nat} (h : n ≤ 10) :
    (tenthsText n).chars = floatText (.ofRatio false n 10) ∧ (tenthsText n).value = .ok (.float (.ofRatio false n 10)) := by
  -- eleven values, for each of which the shortest text is computed
  interval_cases n <;> exact ⟨by decide, rfl⟩

theorem denotes_confidence (s : Signals) : Denotes levels toFloat? (.float s.confidence) s.confidence := by
  obtain ⟨htext, hvalue⟩ := tenthsText_denotes s.tenths_bounds.2
  exact ⟨.float (isUsual_tenthsText s.tenths_bounds.2) htext hvalue, rfl⟩

namespace Profile

/-- Do the counts of a profile fit their words, are its configuration files in the order of the tools, and is its confidence that of
some findings? -/
structure WellFormed (p : Profile) : Prop where
  languages : ∀ s ∈ p.languages, s.WellFormed
  configFiles : InOrder p.configFiles
  confidence : ∃ s : Signals, p.confidence = s.confidence
  stats : p.stats.WellFormed

def sheet (p : Profile) : Sheet :=
  [("primary", some (Json.languages p.primary)), ("secondary", some (Json.languages p.secondary)),
   ("languages", some (.arr (p.languages.map LanguageStat.toJson))),
   ("frameworks", some (.arr (p.frameworks.map Framework.toJson))),
   ("build_tools", some (.arr (p.buildTools.map BuildTool.toJson))),
   ("config_files", some (.obj (p.configFiles.map fun e => (e.1, e.2.toJson)))), ("complexity", some (.str p.complexity.name)),
   ("confidence", some (.float p.confidence)), ("stats", some p.stats.toJson), ("warnings", Sheet.unlessEmpty texts p.warnings)]

theorem languages_denotes (ls : List Language) :
    Denotes (levels + 1) (toList? (toChoice? strict Language.ofName?)) (Json.languages ls) ls :=
  .list fun _ _ => denotes_choice Language.ofName?_name _

theorem toJson_denotes {p : Profile} (h : p.WellFormed) : Denotes (levels + 3) ofJson? p.toJson p := by
  have hconfidence : Denotes (levels + 2) toFloat? (.float p.confidence) p.confidence := by
    obtain ⟨s, hs⟩ := h.confidence
    exact hs ▸ denotes_confidence s
  -- the names stand in the order of the sheet, which is the order of the constructor
  refine .record p.sheet (by simp [toJson, sheet]) (fun _ => rfl) (by simp [sheet, Sheet.names]) ?_
  exact .cons (.required (languages_denotes _)) <|
    .cons (.required (languages_denotes _)) <|
    .cons (.required (.list fun s hs => LanguageStat.toJson_denotes (h.languages s hs))) <|
    .cons (.required (.list fun f _ => f.toJson_denotes)) <|
    .cons (.required (.list fun t _ => t.toJson_denotes)) <|
    .cons (.required (.textMap h.configFiles fun e _ => e.2.toJson_denotes)) <|
    .cons (.required (denotes_choice Complexity.ofName?_name _)) <|
    .cons (.required hconfidence) <|
    .cons (.required (RepoStats.toJson_denotes h.stats)) <|
    .cons (.unlessEmpty (denotes_texts _)) .nil

end Profile

/-! ## §3 — results

Lists that are empty and values that are absent are left out here, and reading puts them back. -/

namespace Issue

/-- Does the place of an issue fit its words? -/
structure WellFormed (i : Issue) : Prop where
  line : ∀ n ∈ i.line, n ≤ Text.maxWord32
  column : ∀ n ∈ i.column, n ≤ Text.maxWord32

def sheet (i : Issue) : Sheet :=
  [("file", some (.str i.file)), ("line", i.line.map nat), ("column", i.column.map nat), ("severity", some (.str i.severity.name)),
   ("rule", i.rule.map .str), ("message", some (.str i.message)), ("fixable", some (.bool i.fixable))]

theorem toJson_denotes {i : Issue} (h : i.WellFormed) : Denotes (levels + 1) ofJson? i.toJson i := by
  refine .record i.sheet (by simp [toJson, sheet]) (fun _ => rfl) (by simp [sheet, Sheet.names]) ?_
  exact .cons (.required (denotes_text _)) <|
    .cons (.option (fun n hn => denotes_word32 (h.line n hn)) nofun) <|
    .cons (.option (fun n hn => denotes_word32 (h.column n hn)) nofun) <|
    .cons (.required (denotes_choice IssueSeverity.ofName?_name _)) <|
    .cons (.option (fun s _ => denotes_text s) nofun) <|
    .cons (.required (denotes_text _)) <|
    .cons (.written (denotes_bool _) _) .nil

end Issue

namespace LinterResult

/-- Do the counts of a linter's result fit their words? -/
structure WellFormed (r : LinterResult) : Prop where
  files : r.files ≤ Text.maxWord64
  errors : r.errors ≤ Text.maxWord64
  warnings : r.warnings ≤ Text.maxWord64
  fixable : r.fixable ≤ Text.maxWord64
  duration : ∀ n ∈ r.duration, n ≤ Text.maxWord64
  issues : ∀ i ∈ r.issues, i.WellFormed

def sheet (r : LinterResult) : Sheet :=
  [("name", some (.str r.name)), ("status", some (.str r.outcome.name)), ("files_linted", some (nat r.files)),
   ("errors", some (nat r.errors)), ("warnings", some (nat r.warnings)), ("fixable", some (nat r.fixable)),
   ("duration_ms", r.duration.map nat), ("issues", Sheet.unlessEmpty (fun is => .arr (is.map Issue.toJson)) r.issues)]

theorem toJson_denotes {r : LinterResult} (h : r.WellFormed) : Denotes (levels + 3) ofJson? r.toJson r := by
  refine .record r.sheet (by simp [toJson, sheet]) (fun _ => rfl) (by simp [sheet, Sheet.names]) ?_
  exact .cons (.required (denotes_text _)) <|
    .cons (.required (denotes_choice Outcome.ofName?_name _)) <|
    .cons (.required (denotes_word64 h.files)) <|
    .cons (.required (denotes_word64 h.errors)) <|
    .cons (.required (denotes_word64 h.warnings)) <|
    .cons (.required (denotes_word64 h.fixable)) <|
    .cons (.option (fun n hn => denotes_word64 (h.duration n hn)) nofun) <|
    .cons (.unlessEmpty (.list fun i hi => Issue.toJson_denotes (h.issues i hi))) .nil

end LinterResult

namespace Summary

/-- Do the counts of a summary fit their words, and are the severities in their order? -/
structure WellFormed (s : Summary) : Prop where
  linters : s.linters ≤ Text.maxWord64
  passed : s.passed ≤ Text.maxWord64
  failed : s.failed ≤ Text.maxWord64
  files : s.files ≤ Text.maxWord64
  issues : s.issues ≤ Text.maxWord64
  fixable : s.fixable ≤ Text.maxWord64
  severities : s.bySeverity.Pairwise fun a b => a.1.rank < b.1.rank
  counts : ∀ e ∈ s.bySeverity, e.2 ≤ Text.maxWord64

def sheet (s : Summary) : Sheet :=
  [("total_linters", some (nat s.linters)), ("passed_linters", some (nat s.passed)), ("failed_linters", some (nat s.failed)),
   ("files_analyzed", some (nat s.files)), ("total_issues", some (nat s.issues)), ("fixable_issues", some (nat s.fixable)),
   ("by_severity", Sheet.unlessEmpty severitiesToJson s.bySeverity)]

/-- Counts by severity are a map like any other, but for its keys. -/
theorem severities_denote {s : Summary} (h : s.WellFormed) :
    Denotes (levels + 1) severitiesOfJson? (severitiesToJson s.bySeverity) s.bySeverity where
  readable := .obj fun j hj => by
    obtain ⟨e, he, rfl⟩ := List.mem_map.mp hj
    exact (denotes_word64 (h.counts e he)).readable
  reads := by
    -- the keys are in the order in which the reader inserts them, so that each one is inserted behind the others
    have hincreasing : Increasing (fun a b : IssueSeverity => decide (a.rank < b.rank)) s.bySeverity :=
      h.severities.imp fun hlt => ⟨fun heq => Nat.lt_irrefl _ (heq ▸ hlt), decide_eq_false (Nat.lt_asymm hlt)⟩
    refine foldlM_insertSorted (fun e he done => ?_) [] hincreasing
    have hcount : Denotes 0 toWord64? (nat e.2) e.2 := denotes_word64 (h.counts e he)
    rw [IssueSeverity.ofName?_name, hcount.reads]
    rfl

theorem toJson_denotes {s : Summary} (h : s.WellFormed) : Denotes (levels + 2) ofJson? s.toJson s := by
  refine .record s.sheet (by simp [toJson, sheet]) (fun _ => rfl) (by simp [sheet, Sheet.names]) ?_
  exact .cons (.required (denotes_word64 h.linters)) <|
    .cons (.required (denotes_word64 h.passed)) <|
    .cons (.required (denotes_word64 h.failed)) <|
    .cons (.required (denotes_word64 h.files)) <|
    .cons (.required (denotes_word64 h.issues)) <|
    .cons (.required (denotes_word64 h.fixable)) <|
    .cons (.unlessEmpty (severities_denote h)) .nil

end Summary

namespace RunMetrics

/-- Do the numbers of a run fit their words? -/
structure WellFormed (m : RunMetrics) : Prop where
  duration : m.duration ≤ Text.maxWord64
  timeBudget : m.timeBudget ≤ Text.maxWord64
  parallelism : m.parallelism ≤ Text.maxWord32
  lintersExecuted : m.lintersExecuted ≤ Text.maxWord64
  outputLines : m.outputLines ≤ Text.maxWord64

def sheet (m : RunMetrics) : Sheet :=
  [("duration_ms", some (nat m.duration)), ("time_budget_secs", some (nat m.timeBudget)), ("parallelism", some (nat m.parallelism)),
   ("linters_executed", some (nat m.lintersExecuted)), ("output_lines", some (nat m.outputLines))]

theorem toJson_denotes {m : RunMetrics} (h : m.WellFormed) : Denotes (levels + 1) ofJson? m.toJson m := by
  refine .record m.sheet rfl (fun _ => rfl) (by simp [sheet, Sheet.names]) ?_
  exact .cons (.required (denotes_word64 h.duration)) <|
    .cons (.required (denotes_word64 h.timeBudget)) <|
    .cons (.required (denotes_word32 h.parallelism)) <|
    .cons (.required (denotes_word64 h.lintersExecuted)) <|
    .cons (.required (denotes_word64 h.outputLines)) .nil

end RunMetrics

namespace RunResults

/-- Does the time of a completed run fit its word, and are its parts well formed? -/
structure WellFormed (r : RunResults) : Prop where
  duration : r.duration ≤ Text.maxWord64
  profile : ∀ p ∈ r.profile, p.WellFormed
  configuration : r.configuration.WellFormed
  linters : ∀ l ∈ r.linters, l.WellFormed
  summary : r.summary.WellFormed
  metrics : r.metrics.WellFormed

def sheet (r : RunResults) : Sheet :=
  [("execution_id", some (.str r.executionId)), ("timestamp", some (.str r.timestamp)), ("duration_ms", some (nat r.duration)),
   ("profile", r.profile.map Profile.toJson), ("configuration", some r.configuration.toJson),
   ("linters", some (.arr (r.linters.map LinterResult.toJson))), ("summary", some r.summary.toJson),
   ("performance", some r.metrics.toJson), ("warnings", Sheet.unlessEmpty texts r.warnings)]

theorem toJson_denotes {r : RunResults} (h : r.WellFormed) : Denotes (levels + 6) ofJson? r.toJson r := by
  refine .record r.sheet (by simp [toJson, sheet]) (fun _ => rfl) (by simp [sheet, Sheet.names]) ?_
  exact .cons (.required (denotes_text _)) <|
    .cons (.required (denotes_text _)) <|
    .cons (.required (denotes_word64 h.duration)) <|
    .cons (.option (fun p hp => Profile.toJson_denotes (h.profile p hp)) nofun) <|
    .cons (.required (Configuration.toJson_denotes h.configuration)) <|
    .cons (.required (.list fun l hl => LinterResult.toJson_denotes (h.linters l hl))) <|
    .cons (.required (Summary.toJson_denotes h.summary)) <|
    .cons (.required (RunMetrics.toJson_denotes h.metrics)) <|
    .cons (.unlessEmpty (denotes_texts _)) .nil

end RunResults

/-! ## §4 — reports of a validation

A report has no numbers, so nothing is asked of it. -/

namespace ReportedIssue

def sheet (i : ReportedIssue) : Sheet :=
  [("code", some (.str i.code)), ("message", some (.str i.message)), ("linters", Sheet.unlessEmpty texts i.linters)]

theorem toJson_denotes (i : ReportedIssue) : Denotes (levels + 2) ofJson? i.toJson i := by
  refine .record i.sheet (by simp [toJson, sheet]) (fun _ => rfl) (by simp [sheet, Sheet.names]) ?_
  exact .cons (.required (denotes_text _)) <|
    .cons (.required (denotes_text _)) <|
    .cons (.unlessEmpty (denotes_texts _)) .nil

end ReportedIssue

namespace ValidationReport

def sheet (r : ValidationReport) : Sheet :=
  [("valid", some (.bool r.valid)), ("errors", some (.arr (r.errors.map ReportedIssue.toJson))),
   ("warnings", some (.arr (r.warnings.map ReportedIssue.toJson))), ("suggestions", some (texts r.suggestions))]

theorem toJson_denotes (r : ValidationReport) : Denotes (levels + 4) ofJson? r.toJson r := by
  refine .record r.sheet rfl (fun _ => rfl) (by simp [sheet, Sheet.names]) ?_
  exact .cons (.required (denotes_bool _)) <|
    .cons (.required (.list fun i _ => i.toJson_denotes)) <|
    .cons (.required (.list fun i _ => i.toJson_denotes)) <|
    .cons (.required (denotes_texts _)) .nil

end ValidationReport

/-! ## §5 — texts

From values to texts, by the theorem on values that are read back. -/

/-- **What is written is read back.** The text of a completed run, of a configuration or of a report, with or without blanks, is
parsed as what was written. -/
theorem documents_read_back :
    (∀ r : RunResults, r.WellFormed →
      parsed? RunResults.ofJson? (compact r.toJson) = some r ∧ parsed? RunResults.ofJson? (pretty r.toJson) = some r) ∧
    (∀ c : Configuration, c.WellFormed →
      parsed? Configuration.ofJson? (compact c.toJson) = some c ∧ parsed? Configuration.ofJson? (pretty c.toJson) = some c) ∧
    ∀ v : ValidationReport,
      parsed? ValidationReport.ofJson? (compact v.toJson) = some v ∧ parsed? ValidationReport.ofJson? (pretty v.toJson) = some v := by
  refine ⟨fun r hr => ?_, fun c hc => ?_, fun v => ?_⟩
  · have hdenotes : Denotes 6 RunResults.ofJson? r.toJson r := RunResults.toJson_denotes hr
    exact hdenotes.parsed?_written (by decide)
  · have hdenotes : Denotes 5 Configuration.ofJson? c.toJson c := Configuration.toJson_denotes hc
    exact hdenotes.parsed?_written (by decide)
  · have hdenotes : Denotes 4 ValidationReport.ofJson? v.toJson v := v.toJson_denotes
    exact hdenotes.parsed?_written (by decide)

/-- A run of one linter that found something, with a profile, and with fields that are left out. -/
def failedRun : RunResults where
  executionId := "run \"1\""
  timestamp := "2024-01-01T00:00:00Z"
  duration := 1500
  profile := some
    { primary := [.rust]
      secondary := []
      languages := [⟨.rust, 1, 10⟩]
      frameworks := []
      buildTools := [⟨"cargo", "Cargo.toml"⟩]
      configFiles := [("clippy", ⟨"clippy.toml", .linter, .high⟩), ("rustfmt", ⟨"rustfmt.toml", .formatter, .medium⟩)]
      complexity := .simple
      confidence := Signals.confidence ⟨1, 0, 1, 2⟩
      stats := ⟨4, 1, 2, 30⟩
      warnings := [] }
  configuration := .standard
  linters := [⟨"clippy", .failed, 1, 1, 0, 0, none, [⟨"src/main.rs", some 3, none, .high, none, "unused", false⟩]⟩]
  summary := ⟨1, 0, 1, 1, 1, 0, [(.low, 2), (.high, 1)]⟩
  metrics := ⟨1500, 300, 4, 1, 12⟩
  warnings := ["tabs\tand\nlines"]

/-- The run is well formed, field by field. -/
theorem wellFormed_failedRun : failedRun.WellFormed where
  duration := by decide
  profile := by
    rintro p ⟨⟩
    refine ⟨fun s hs => ?_, List.pairwise_pair.mpr (by decide), ⟨⟨1, 0, 1, 2⟩, rfl⟩, ?_⟩
    · obtain rfl := List.mem_singleton.mp hs
      exact ⟨by decide, by decide⟩
    · exact ⟨by decide, by decide, by decide, by decide⟩
  configuration := ⟨.nil, by decide, by decide, by decide⟩
  linters := by
    intro l hl
    obtain rfl := List.mem_singleton.mp hl
    refine ⟨by decide, by decide, by decide, by decide, nofun, fun i hi => ?_⟩
    obtain rfl := List.mem_singleton.mp hi
    refine ⟨?_, nofun⟩
    rintro n ⟨⟩
    decide
  summary := ⟨by decide, by decide, by decide, by decide, by decide, by decide, by decide, by decide⟩
  metrics := ⟨by decide, by decide, by decide, by decide, by decide⟩

theorem documents_read_back_failedRun : failedRun.WellFormed ∧ Configuration.standard.WellFormed ∧
    parsed? RunResults.ofJson? (compact failedRun.toJson) = some failedRun ∧
    parsed? Configuration.ofJson? (pretty Configuration.standard.toJson) = some Configuration.standard :=
  ⟨wellFormed_failedRun, wellFormed_failedRun.configuration, (documents_read_back.1 failedRun wellFormed_failedRun).1,
    (documents_read_back.2.1 .standard wellFormed_failedRun.configuration).2⟩

end LintPlan
