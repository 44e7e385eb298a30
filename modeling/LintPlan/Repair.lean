import LintPlan.Validation
/-!
# Repairing configurations

Errors of a configuration that can be repaired: of two linters that conflict the later one goes off, an
unusable memory limit is replaced, and a missing report format is added.
-/

namespace LintPlan

namespace LinterSet

/-- Switches off the later linter of the first pair that conflicts, up to `fuel` times. -/
def separate : (fuel : Nat) → LinterSet → LinterSet
  | 0, s => s
  | fuel + 1, s =>
    match clashes s.enabledNames with
    | [] => s
    | (_, later) :: _ => separate fuel (s.disable later)

/-- Switches off linters until no pair conflicts: each turn switches off one of those that are on. -/
def separated (s : LinterSet) : LinterSet := separate s.enabled.length s

end LinterSet

namespace Configuration

/-- Repairs conflicts between linters. -/
def repairConflicts (c : Configuration) : Configuration :=
  if c.clashingPairs.isEmpty then c else { c with linters := c.linters.separated }

/-- Repairs the memory limit. -/
def repairMemory (c : Configuration) : Configuration :=
  if c.memoryIssue?.isNone then c
  else
    { c with performance :=
        { c.performance with limits := { c.performance.limits with maxMemory := MemorySize.fallback } } }

/-- Repairs the formats of reports. -/
def repairFormats (c : Configuration) : Configuration :=
  if c.formatsIssue?.isNone then c else { c with reporting := { c.reporting with formats := [.json] } }

/-- Repairs whatever keeps the configuration from being run. -/
def repaired (c : Configuration) : Configuration := c.repairConflicts.repairMemory.repairFormats

/-- The configuration, repaired if it is not valid; errors that remain are given back. -/
def autoFix (c : Configuration) : Except (List ConfigIssue) Configuration :=
  if c.isValid then .ok c
  else if c.repaired.isValid then .ok c.repaired
  else .error c.repaired.errors

end Configuration

end LintPlan
