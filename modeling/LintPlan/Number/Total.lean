/-!
# Sums of numbers
-/

namespace LintPlan

/-- The sum of numbers. The fold is written out because the zero that `List.sum` starts from is found by instance
search, so that it depends on what a module imports. -/
def total (ns : List Nat) : Nat :=
  ns.foldr (· + ·) 0

end LintPlan
