import LintPlan.Planning.Wishes
import LintPlan.Planning.Tuning
import LintPlan.Repair
/-!
# Plans

From a profile and preferences to a configuration that can be run.
-/

namespace LintPlan.Planning

/-- With more linters than this, results are cached as far as possible. -/
def aggressiveCacheFrom : Nat := 25

/-- No more linters at a time than there are; many linters look at changed files only and cache as far
as possible. -/
def optimized (c : Configuration) : Configuration :=
  let enabled := c.linters.enabled.length
  { c with
    performance :=
      { c.performance with
        parallelism := min c.performance.parallelism (max enabled 1)
        incremental := c.performance.incremental || decide (Configuration.incrementalFrom < enabled)
        cache := if aggressiveCacheFrom < enabled then .aggressive else c.performance.cache } }

/-- The configuration before it is checked. -/
def draft (p : Profile) (prefs : Preferences) : Configuration where
  linters := applyPreferences prefs (selected p)
  performance := tunedPerformance p prefs
  reporting := reporting prefs
  security := security prefs

/-- The configuration for a profile and preferences: repaired if need be, then optimized. Errors that
remain are given back. -/
def plan (p : Profile) (prefs : Preferences) : Except (List ConfigIssue) Configuration :=
  let d := draft p prefs
  let c := optimized (if d.isValid then d else d.repaired)
  if c.isValid then .ok c else .error c.errors

end LintPlan.Planning
