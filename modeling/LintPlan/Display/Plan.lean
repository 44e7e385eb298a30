import LintPlan.Display.Banner
import LintPlan.Repository.Profile
import LintPlan.PlanText
import LintPlan.Validation
/-!
# Plans for people

The text that shows a configuration with what validation says about it.
-/

namespace LintPlan.Configuration

open Display

/-- The line of a linter that is on. -/
def linterLine (l : Linter) : String :=
  "  ✓ " ++ l.name ++ " (" ++ l.category.name ++ ", " ++ l.severity.name ++ ")\n"

/-- The lines on time, reports and security. -/
def settingLines (c : Configuration) : String :=
  let perf := c.performance
  "time: " ++ toString perf.maxExecutionTime ++ "s | parallelism: " ++ toString perf.parallelism ++
    " | memory: " ++ perf.limits.maxMemory ++ " | cpus: " ++ toString perf.limits.maxCpus ++
    " | cache: " ++ perf.cache.name ++ " | incremental: " ++ PlanText.boolText perf.incremental ++
    "\nreports: " ++ Text.joined ", " (c.reporting.formats.map ReportFormat.name) ++ " -> " ++
    c.reporting.outputDir ++ "\nsecurity: " ++ (if c.security.enabled then "on" else "off") ++
    " (threshold " ++ c.security.severityThreshold.name ++ ")\n"

/-- The part with warnings and advice. -/
def notes (report : ValidationReport) : String :=
  showIf (!report.warnings.isEmpty || !report.suggestions.isEmpty)
    (heading "NOTES" ++
      String.join (report.warnings.map fun w => "  ⚠ " ++ w.code ++ ": " ++ w.message ++ "\n") ++
      String.join (report.suggestions.map fun s => "  → " ++ s ++ "\n"))

/-- The text that shows the configuration for the repository at a path. -/
def display (c : Configuration) (path : String) (p : Profile) (report : ValidationReport) : String :=
  banner "LINT PLAN" ++ "path: " ++ path ++ "\n" ++
    "complexity: " ++ p.complexity.name ++ " | languages: " ++
    Text.joined ", " (p.detectedLanguages.map Language.name) ++ "\n" ++
    "\nenabled:\n" ++ String.join (c.linters.enabled.map linterLine) ++
    showIf (!c.linters.disabled.isEmpty)
      ("disabled: " ++ Text.joined ", " c.linters.disabled ++ "\n") ++
    heading "PERFORMANCE" ++ c.settingLines ++ notes report

end LintPlan.Configuration
