import LintPlan.Repository.Profile
import LintPlan.Preferences
/-!
# Budgets, reports and security scanning of a plan

The complexity of a repository gives time, memory and parallelism. Many languages, much technical debt
and the performance profile change them by tenths.
-/

namespace LintPlan.Planning

/-- The budget for a class of repositories; memory in megabytes apart. -/
def baseBudget : Complexity → Performance × Nat
  | .simple => (⟨120, 2, ⟨"1GB", 2⟩, .aggressive, false⟩, 1024)
  | .moderate => (⟨300, 4, ⟨"2GB", 4⟩, .conservative, false⟩, 2048)
  | .complex => (⟨600, 6, ⟨"4GB", 6⟩, .conservative, true⟩, 4096)

/-- `tenths / 10` of a number, rounded, a half upwards. -/
def scaleTenths (tenths n : Nat) : Nat := (n * tenths + 5) / 10

/-- With more languages than this, time and memory grow. -/
def manyLanguages : Nat := 5

/-- With more technical debt than this, time and memory grow. -/
def highDebt : Binary64 := Binary64.ofRatio false 7 10

/-- Is there much technical debt? -/
def hasHighDebt (prefs : Preferences) : Bool :=
  match prefs.history with
  | some h => highDebt.lt h.technicalDebt
  | none => false

/-- A budget with its memory in megabytes. -/
abbrev Budget := Performance × Nat

/-- Scales time and memory by tenths. -/
def scaleBudget (timeTenths memoryTenths : Nat) (b : Budget) : Budget :=
  ({ b.1 with maxExecutionTime := scaleTenths timeTenths b.1.maxExecutionTime },
    scaleTenths memoryTenths b.2)

/-- What the performance profile asks for. -/
def applyProfile (profile : PerformanceProfile) (perf : Performance) : Performance :=
  match profile with
  | .fast => { perf with cache := .aggressive, incremental := true }
  | .balanced => perf
  | .thorough =>
    { perf with maxExecutionTime := scaleTenths 15 perf.maxExecutionTime, incremental := false }

/-- The budget for a profile and preferences. -/
def tunedPerformance (p : Profile) (prefs : Preferences) : Performance :=
  let b := baseBudget p.complexity
  let b := if manyLanguages < p.languageCount then scaleBudget 12 15 b else b
  let b := if hasHighDebt prefs then scaleBudget 15 12 b else b
  let perf := applyProfile prefs.performanceProfile b.1
  { perf with
    limits := { perf.limits with maxMemory := MemorySize.render (min b.2 MemorySize.greatest) } }

/-- The reports that preferences ask for: the standard format, and the preferred one if it is another. -/
def reporting (prefs : Preferences) : Reporting where
  formats :=
    if prefs.reporting.preferredFormat = .json then [.json]
    else [.json, prefs.reporting.preferredFormat]
  outputDir := prefs.reporting.outputDir.getD Reporting.standard.outputDir
  showPassed := prefs.reporting.showPassed

/-- The security scanning that preferences ask for. -/
def security (prefs : Preferences) : Security where
  enabled := true
  severityThreshold := if prefs.enhancedScanning then .info else .warning
  secretScanning := true
  dependencyScanning := prefs.enhancedScanning

end LintPlan.Planning
