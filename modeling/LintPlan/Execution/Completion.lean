import LintPlan.Execution.Watch
import LintPlan.Report.Output
/-!
# Completed executions

The record of an execution that completed: what its output says, with the identifier and the time that it was given.
-/

namespace LintPlan

/-- What an execution is stamped with. -/
structure Stamp where
  id : String
  time : String
  /-- Milliseconds that it took. -/
  milliseconds : Nat
  deriving DecidableEq, Repr

namespace Captured

/-- What the output says. -/
def reading (k : Captured) : OutputReading := .read (Watch.textOf k.stdout)

/-- The record of the execution, with its totals as they are, however large; the profile is only copied into it. The
record that is made is `results?`. -/
def results (k : Captured) (stamp : Stamp) (c : Configuration) (profile : Option Profile) : RunResults :=
  let reading := k.reading
  { executionId := stamp.id
    timestamp := stamp.time
    duration := stamp.milliseconds
    profile := profile
    configuration := c
    linters := reading.results
    summary := .ofResults reading.results
    metrics :=
      { duration := stamp.milliseconds
        timeBudget := c.performance.maxExecutionTime
        parallelism := c.performance.parallelism
        lintersExecuted := reading.results.length
        outputLines := k.outputLines }
    warnings := reading.warnings.map OutputWarning.message }

/-- The record as it is made: there is none if a counter of its summary overflows, which no program survives. -/
def results? (k : Captured) (stamp : Stamp) (c : Configuration) (profile : Option Profile) : Option RunResults :=
  (Summary.ofResults? k.reading.results).map fun summary => { k.results stamp c profile with summary := summary }

end Captured

end LintPlan
