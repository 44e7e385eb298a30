import Mathlib.Data.List.Basic
import LintPlan.Command.Program
import LintPlan.Proofs.Number.Total
import LintPlan.Proofs.Report.Counters

/-!
# Findings and the verdict of a run

A run is shown as clean, and its exit status is zero, if there are no findings. Whether a linter failed does not matter
for that, only what it found:

* **`issues_pos_iff`** — the summary counts a finding if and only if some linter found something.
* **`findsSomething_of_no_status`** — a linter of a report that says nothing about its status fails only if it found
  something. One that says so, or that the log marks as failed, may have found nothing.
* **`failed_linter_shown`** — so a failed linter that found something makes the run end with status 1, under the heading
  for issues; and one that did not may be shown under the heading for clean runs (`silent_failure_shown_as_clean`).
-/

namespace LintPlan

/-! ## §1 — findings

A linter finds something if it counts errors or warnings, or if it lists issues. -/

/-- The linter reports an error or a warning, or issues of it were collected. -/
def LinterResult.FindsSomething (r : LinterResult) : Prop := 0 < r.errors ∨ 0 < r.warnings ∨ r.issues ≠ []

theorem LinterResult.issueCount_pos_iff {r : LinterResult} : 0 < r.issueCount ↔ r.FindsSomething := by
  have hissues : 0 < r.issues.length ↔ r.issues ≠ [] := List.length_pos_iff
  rw [issueCount, FindsSomething, ← hissues]
  omega

/-- A run counts issues exactly when one of its linters does. -/
theorem Summary.issues_pos_iff {results : List LinterResult} :
    0 < (ofResults results).issues ↔ ∃ r ∈ results, r.FindsSomething := by
  show 0 < total (results.map LinterResult.issueCount) ↔ _
  rw [total_eq_sum, List.sum_pos_iff_exists_pos_nat]
  constructor
  · rintro ⟨n, hn, hpos⟩
    obtain ⟨r, hr, rfl⟩ := List.mem_map.1 hn
    exact ⟨r, hr, LinterResult.issueCount_pos_iff.1 hpos⟩
  · rintro ⟨r, hr, hfinds⟩
    exact ⟨_, List.mem_map_of_mem hr, LinterResult.issueCount_pos_iff.2 hfinds⟩

/-- A linter without a status of its own fails by its errors only. So where a failed linter found nothing, as in
`World.silent_failure_shown_as_clean`, it was the report or the log that called it failed. -/
theorem EmbeddedReport.findsSomething_of_no_status {x : ReportedResult} (hstatus : x.status = none)
    (hfailed : x.toResult.outcome = .failed) : x.toResult.FindsSomething := by
  have houtcome : outcome x.status x.errors = .failed := hfailed
  rw [hstatus, outcome] at houtcome
  split at houtcome
  · next hpos => exact .inl hpos
  · cases houtcome

/-! ## §2 — verdicts

From the captured output to the exit status and the heading, for every way of asking for a run. -/

theorem RunResults.hasIssues_iff {r : RunResults} : r.hasIssues = true ↔ 0 < r.summary.issues := decide_eq_true_iff

/-- The text of a run starts with its verdict. -/
theorem RunResults.display_heading (r : RunResults) (long : Bool) :
    ∃ rest, r.display long =
      Display.banner (if r.hasIssues then "LINT RUN: ISSUES" else "LINT RUN: CLEAN") ++ rest := by
  have htitle : "LINT RUN: " ++ (if r.hasIssues then "ISSUES" else "CLEAN") =
      if r.hasIssues then "LINT RUN: ISSUES" else "LINT RUN: CLEAN" := by
    split <;> rfl
  rw [display, htitle]
  simp only [String.append_assoc]
  exact ⟨_, rfl⟩

namespace RunOptions

/-- The arguments that ask for a run. -/
def invocation (o : RunOptions) (format : OutputFormat) (verbose : Bool) (gracePeriod : Nat) : Invocation :=
  ⟨.run o.path o.timeout o.speed o.preferences o.events, format, verbose, o.engine, o.image, gracePeriod, o.maxDepth⟩

/-- The plan for a run in a world. -/
def draft (o : RunOptions) (w : World) : Except Failure Draft :=
  Draft.make w.surroundings o.maxDepth o.path o.preferences o.speed

/-- What comes of executing a plan in a world. -/
def outcome? (o : RunOptions) (w : World) (c : Configuration) : Option RunOutcome :=
  ((Session.start (o.runner w.surroundings)).execute w.stamp.id ⟨o.limited c, o.path⟩ (w.engines o.engine)).result? 0

variable {o : RunOptions} {w : World} {d : Draft} {k : Captured}

/-- The record of a run whose container ended well, if there is one. -/
theorem run_results (hdraft : o.draft w = .ok d)
    (hcaptured : o.outcome? w d.configuration = some (.ok k)) :
    (o.run w.surroundings (w.engines o.engine) w.stamp).results =
      (k.results? w.stamp (o.limited d.configuration) (some d.profile)).map .ok := by
  rw [outcome?] at hcaptured
  rw [draft] at hdraft
  rw [run, hdraft]
  dsimp only [execute]
  rw [hcaptured]

end RunOptions

/-- What the program has to say about a run. -/
theorem World.reply_perform_invocation (w : World) (o : RunOptions) (format : OutputFormat) (verbose : Bool)
    (gracePeriod : Nat) : (w.perform (o.invocation format verbose gracePeriod)).reply =
      match (o.run w.surroundings (w.engines o.engine) w.stamp).results with
      | some (.ok r) => .result (r.output verbose format) r.hasIssues
      | some (.error f) => .failure f
      | none => .crash := rfl

section
variable {w : World} {o : RunOptions} {d : Draft} {k : Captured}

/-- **A failed linter that found something is never shown as clean.** A container ended well, and among the results that
are read of its output there is such a linter. Then, unless counters overflow, there is a record of the run with these
results, it has issues, the program ends with status 1, and the text that shows the record is headed accordingly. -/
theorem World.failed_linter_shown (format : OutputFormat) (verbose : Bool) (gracePeriod : Nat)
    (hdraft : o.draft w = .ok d) (hcaptured : o.outcome? w d.configuration = some (.ok k))
    (hfits : (Summary.ofResults k.reading.results).Fits)
    (hfailed : ∃ l ∈ k.reading.results, l.outcome = .failed ∧ l.FindsSomething) :
    let reply := (w.perform (o.invocation format verbose gracePeriod)).reply
    ∃ r : RunResults, r.linters = k.reading.results ∧ 0 < r.summary.issues ∧ r.hasIssues = true ∧
      reply = .result (r.output verbose format) true ∧ reply.exitStatus = 1 ∧
      ∀ long, ∃ rest, r.display long = Display.banner "LINT RUN: ISSUES" ++ rest := by
  obtain ⟨l, hl, -, hfinds⟩ := hfailed
  have hpos : 0 < (Summary.ofResults k.reading.results).issues := Summary.issues_pos_iff.2 ⟨l, hl, hfinds⟩
  let r : RunResults := k.results w.stamp (o.limited d.configuration) (some d.profile)
  have hr : k.results? w.stamp (o.limited d.configuration) (some d.profile) = some r :=
    Captured.results?_eq_some_iff.2 ⟨rfl, hfits⟩
  have hissues : r.hasIssues = true := RunResults.hasIssues_iff.2 hpos
  -- the reply is followed through the command: draft, run, record
  have hreply : (w.perform (o.invocation format verbose gracePeriod)).reply =
      .result (r.output verbose format) true := by
    rw [w.reply_perform_invocation o format verbose gracePeriod, RunOptions.run_results hdraft hcaptured, hr,
      Option.map_some]
    dsimp only
    rw [hissues]
  refine ⟨r, rfl, hpos, hissues, hreply, by rw [hreply]; rfl, fun long => ?_⟩
  have hheading := r.display_heading long
  rwa [hissues, if_pos rfl] at hheading

/-- A run whose totals do not fit counters brings the program down. This is the case that `failed_linter_shown` leaves out by
its condition on the counters: there is no verdict then, neither a right nor a wrong one. -/
theorem World.overflow_crashes (format : OutputFormat) (verbose : Bool) (gracePeriod : Nat)
    (hdraft : o.draft w = .ok d) (hcaptured : o.outcome? w d.configuration = some (.ok k))
    (hfits : ¬ (Summary.ofResults k.reading.results).Fits) :
    (w.perform (o.invocation format verbose gracePeriod)).reply = .crash := by
  have hr : k.results? w.stamp (o.limited d.configuration) (some d.profile) = none :=
    Captured.results?_eq_none_iff.2 hfits
  rw [w.reply_perform_invocation o format verbose gracePeriod, RunOptions.run_results hdraft hcaptured, hr]
  rfl

end

/-- A world with an empty repository and an engine whose containers print a text and end well. -/
def World.printing (text : String) : World where
  environment := []
  files := FileTree.empty.put ["repo"] .directory
  here := ["repo"]
  engines _ := ⟨0, true, none, Text.bytesOf text, [], .exits (some 0), .command true, true⟩
  stamp := ⟨"id", "now", 0⟩

/-- A run of the working directory, without any wishes. -/
def RunOptions.plain : RunOptions := ⟨".", none, none, none, false, 12, "docker", "image"⟩

/-- One linter ends well, the other one fails with a warning but without an error. -/
def World.warned : World :=
  .printing "✅ Linted [X] files with [ruff]\n❌ Linted [X] files with [eslint]: 1 warning\n"

/-- A run in which one linter passes and another fails with a warning: exit status 1. -/
theorem World.failed_linter_shown_warned : ∃ d k, RunOptions.plain.draft warned = .ok d ∧
    RunOptions.plain.outcome? warned d.configuration = some (.ok k) ∧
    (Summary.ofResults k.reading.results).Fits ∧
    (∃ l ∈ k.reading.results, l.outcome = .failed ∧ l.FindsSomething) ∧
    (warned.perform (RunOptions.plain.invocation .text false 10)).reply.exitStatus = 1 := by
  let k : Captured := ⟨["✅ Linted [X] files with [ruff]", "❌ Linted [X] files with [eslint]: 1 warning"], 2⟩
  have hran : ((RunOptions.plain.draft warned).toOption.any fun d =>
      RunOptions.plain.outcome? warned d.configuration == some (.ok k)) = true := by decide +kernel
  obtain ⟨d, hd, hcaptured⟩ := (Option.any_eq_true _ _).1 hran
  have hdraft : RunOptions.plain.draft warned = .ok d := by
    cases hmake : RunOptions.plain.draft warned with
    | error f =>
      rw [hmake] at hd
      cases hd
    | ok d' =>
      rw [hmake] at hd
      cases hd
      rfl
  have hresults : k.reading.results =
      [⟨"ruff", .success, 0, 0, 0, 0, none, []⟩, ⟨"eslint", .failed, 0, 0, 1, 0, none, []⟩] := by decide
  have hfailed : ∃ l ∈ k.reading.results, l.outcome = .failed ∧ l.FindsSomething := by
    rw [hresults]
    exact ⟨_, List.mem_cons_of_mem _ List.mem_cons_self, rfl, .inr (.inl (by decide))⟩
  have hfits : (Summary.ofResults k.reading.results).Fits := by
    rw [hresults]
    exact ⟨by decide, by decide, by decide⟩
  obtain ⟨r, -, -, -, -, hstatus, -⟩ :=
    failed_linter_shown .text false 10 hdraft (beq_iff_eq.1 hcaptured) hfits hfailed
  exact ⟨d, k, hdraft, beq_iff_eq.1 hcaptured, hfits, hfailed, hstatus⟩

/-- **A failed linter that found nothing is shown as clean.** The report says that the linter failed, and no more. -/
theorem World.silent_failure_shown_as_clean :
    let text := "\x7b\"linters\":[\x7b\"name\":\"eslint\",\"status\":\"error\"\x7d]\x7d\n"
    let reply := ((World.printing text).perform (RunOptions.plain.invocation .text false 10)).reply
    (OutputReading.read text.toList).results = [⟨"eslint", .failed, 0, 0, 0, 0, none, []⟩] ∧
      reply.exitStatus = 0 ∧
      reply.stdout [] = Display.banner "LINT RUN: CLEAN" ++
        "execution: id\nlinters: 1 (passed 0, failed 1) | files: 0 | issues: 0 | fixable: 0 | duration: 0ms\n" ++
        "\nlinters:\n  ✗ eslint (0 files, E:0 W:0)\n" := by
  decide +kernel

end LintPlan
