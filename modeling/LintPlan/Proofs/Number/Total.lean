import LintPlan.Number.Total
import Mathlib.Algebra.GroupWithZero.Nat

/-!
# Totals as sums

A total is the library's sum, so what is known of sums holds of it.
-/

namespace LintPlan

theorem total_eq_sum (ns : List Nat) : total ns = ns.sum :=
  List.sum_eq_foldr.symm

end LintPlan
