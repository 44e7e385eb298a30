import LintPlan.Planning.Plan

/-!
# Budgets are usable

Tuning starts from one of three budgets and scales it by tenths at most three times, so that there are few sizes and
times that it can come to. This module bounds them:

* **`parse?_maxMemory_tunedPerformance`** — the memory limit reads back as a size between the least usable and the
  greatest one.
* **`maxExecutionTime_tunedPerformance_bounds`** — the time suffices for a run, and is no more than 27 minutes.
* **`parallelism_tunedPerformance_bounds`**, **`maxCpus_tunedPerformance_le`** — between one and six at a time.
-/

namespace LintPlan.Planning

/-- The memory, in megabytes, that tuning can come to. -/
def tunedSizes : List Nat := [1024, 1229, 1536, 1843, 2048, 2458, 3072, 3686, 4096, 4915, 6144, 7373]

/-- The budget before the performance profile counts. -/
def scaledBudget (c : Complexity) (manyLanguages highDebt : Bool) : Budget :=
  let b := baseBudget c
  let b := if manyLanguages then scaleBudget 12 15 b else b
  if highDebt then scaleBudget 15 12 b else b

/-- The performance of a plan depends on the profile only by its complexity and by whether it has many languages. -/
theorem tunedPerformance_eq (p : Profile) (prefs : Preferences) :
    tunedPerformance p prefs =
      let b := scaledBudget p.complexity (decide (manyLanguages < p.languageCount)) (hasHighDebt prefs)
      let perf := applyProfile prefs.performanceProfile b.1
      { perf with
        limits := { perf.limits with maxMemory := MemorySize.render (min b.2 MemorySize.greatest) } } := by
  by_cases hmany : manyLanguages < p.languageCount <;> simp [tunedPerformance, scaledBudget, hmany]

theorem min_scaledBudget_mem_tunedSizes (c : Complexity) (many debt : Bool) :
    min (scaledBudget c many debt).2 MemorySize.greatest ∈ tunedSizes := by
  cases c <;> cases many <;> cases debt <;> decide

theorem scaledBudget_bounds (c : Complexity) (many debt : Bool) :
    leastExecutionTime ≤ (scaledBudget c many debt).1.maxExecutionTime ∧
      (scaledBudget c many debt).1.maxExecutionTime ≤ 1080 ∧
      1 ≤ (scaledBudget c many debt).1.parallelism ∧ (scaledBudget c many debt).1.parallelism ≤ 6 ∧
      (scaledBudget c many debt).1.limits.maxCpus ≤ 6 := by
  cases c <;> cases many <;> cases debt <;> decide

/-- Each of the sizes reads back as it was written and can be worked with. -/
theorem parse?_render_tunedSizes :
    ∀ n ∈ tunedSizes, MemorySize.parse? (MemorySize.render n) = some n ∧ MemorySize.least ≤ n ∧
      n ≤ MemorySize.greatest := by
  decide

/-! ## The bounds

From budgets to plans, with the rule for the profile of a run applied. -/

theorem maxMemory_tunedPerformance (p : Profile) (prefs : Preferences) :
    ∃ n ∈ tunedSizes, (tunedPerformance p prefs).limits.maxMemory = MemorySize.render n := by
  rw [tunedPerformance_eq]
  exact ⟨_, min_scaledBudget_mem_tunedSizes p.complexity (decide (manyLanguages < p.languageCount)) (hasHighDebt prefs),
    rfl⟩

/-- **The memory limit of a plan is a size between the least usable and the greatest one.** -/
theorem parse?_maxMemory_tunedPerformance (p : Profile) (prefs : Preferences) :
    ∃ megabytes, MemorySize.parse? (tunedPerformance p prefs).limits.maxMemory = some megabytes ∧
      MemorySize.least ≤ megabytes ∧ megabytes ≤ MemorySize.greatest := by
  obtain ⟨n, hn, hmem⟩ := maxMemory_tunedPerformance p prefs
  rw [hmem]
  exact ⟨n, parse?_render_tunedSizes n hn⟩

/-- The performance profile makes a run longer by half at most, and never shorter. -/
theorem maxExecutionTime_applyProfile_bounds (profile : PerformanceProfile) (perf : Performance) :
    perf.maxExecutionTime ≤ (applyProfile profile perf).maxExecutionTime ∧
      (applyProfile profile perf).maxExecutionTime ≤ scaleTenths 15 perf.maxExecutionTime := by
  cases profile <;> simp only [applyProfile, scaleTenths] <;> omega

/-- The time lies between the least one and one and a half times the largest budget. -/
theorem maxExecutionTime_tunedPerformance_bounds (p : Profile) (prefs : Preferences) :
    leastExecutionTime ≤ (tunedPerformance p prefs).maxExecutionTime ∧
      (tunedPerformance p prefs).maxExecutionTime ≤ 1620 := by
  rw [tunedPerformance_eq]
  obtain ⟨hlow, hhigh, -, -, -⟩ :=
    scaledBudget_bounds p.complexity (decide (manyLanguages < p.languageCount)) (hasHighDebt prefs)
  obtain ⟨h1, h2⟩ := maxExecutionTime_applyProfile_bounds prefs.performanceProfile
    (scaledBudget p.complexity (decide (manyLanguages < p.languageCount)) (hasHighDebt prefs)).1
  simp only [scaleTenths] at h2
  exact ⟨Nat.le_trans hlow h1, by show (applyProfile _ _).maxExecutionTime ≤ _; omega⟩

theorem parallelism_tunedPerformance_bounds (p : Profile) (prefs : Preferences) :
    1 ≤ (tunedPerformance p prefs).parallelism ∧ (tunedPerformance p prefs).parallelism ≤ 6 := by
  rw [tunedPerformance_eq]
  obtain ⟨-, -, hlow, hhigh, -⟩ :=
    scaledBudget_bounds p.complexity (decide (manyLanguages < p.languageCount)) (hasHighDebt prefs)
  cases prefs.performanceProfile <;> exact ⟨hlow, hhigh⟩

theorem maxCpus_tunedPerformance_le (p : Profile) (prefs : Preferences) :
    (tunedPerformance p prefs).limits.maxCpus ≤ 6 := by
  rw [tunedPerformance_eq]
  obtain ⟨-, -, -, -, hcpus⟩ :=
    scaledBudget_bounds p.complexity (decide (manyLanguages < p.languageCount)) (hasHighDebt prefs)
  cases prefs.performanceProfile <;> exact hcpus

end LintPlan.Planning
