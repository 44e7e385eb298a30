import LintPlan.Number.Binary64
/-!
# Complexity and confidence

Two scores of a repository, both functions of counts alone. Each threshold that a count crosses gives a
point of complexity; each kind of finding gives tenths of confidence.

Main statement: larger counts never give fewer points (`score_mono`).
-/

namespace LintPlan

/-- The size class of a repository. -/
inductive Complexity where
  | simple | moderate | complex
  deriving DecidableEq, Repr, Inhabited

namespace Complexity

/-- Every class, from the smallest. -/
def all : List Complexity := [simple, moderate, complex]

/-- The name of a class in every document. -/
def name : Complexity → String
  | simple => "simple"
  | moderate => "moderate"
  | complex => "complex"

/-- The class with a name. -/
def ofName? (s : String) : Option Complexity := all.find? fun x => x.name == s

/-- The place in the order of classes. -/
def rank : Complexity → Nat
  | simple => 0
  | moderate => 1
  | complex => 2

theorem ofName?_name (x : Complexity) : ofName? x.name = some x := by cases x <;> rfl

end Complexity

/-- Counts of a walked repository. -/
structure RepoStats where
  files : Nat
  directories : Nat
  /-- The depth of the deepest file or directory. -/
  maxDepth : Nat
  /-- Lines of source code. -/
  totalLines : Nat
  deriving DecidableEq, Repr

namespace Complexity

/-- How many of the thresholds the value exceeds. -/
def crossed (thresholds : List Nat) (value : Nat) : Nat := thresholds.countP fun t => t < value

/-- One point for each threshold crossed. -/
def score (stats : RepoStats) (languages : Nat) : Nat :=
  crossed [100, 500, 1000] stats.files + crossed [10, 50] stats.directories +
    crossed [5, 10] stats.maxDepth + crossed [3, 6] languages

/-- The class of a score. -/
def ofScore (points : Nat) : Complexity :=
  if points ≤ 2 then simple else if points ≤ 5 then moderate else complex

theorem crossed_mono {thresholds : List Nat} {a b : Nat} (h : a ≤ b) :
    crossed thresholds a ≤ crossed thresholds b := by
  unfold crossed
  apply List.countP_mono_left
  intro t _ ht
  simp only [decide_eq_true_eq] at *
  omega

theorem score_mono {s t : RepoStats} {m n : Nat} (hf : s.files ≤ t.files)
    (hd : s.directories ≤ t.directories) (hx : s.maxDepth ≤ t.maxDepth) (hl : m ≤ n) :
    score s m ≤ score t n := by
  unfold score
  exact Nat.add_le_add (Nat.add_le_add (Nat.add_le_add (crossed_mono hf) (crossed_mono hd))
    (crossed_mono hx)) (crossed_mono hl)

end Complexity

/-- Counts of findings that make a profile trustworthy. -/
structure Signals where
  languages : Nat
  frameworks : Nat
  buildTools : Nat
  configFiles : Nat
  deriving DecidableEq, Repr

namespace Signals

/-- Confidence in tenths: three to begin with, more for each kind of finding, at most ten. -/
def tenths (s : Signals) : Nat :=
  min 10 <| 3 + (if 0 < s.languages then 3 else 0) + (if 2 < s.languages then 1 else 0) +
    (if 0 < s.frameworks then 2 else 0) + (if 0 < s.buildTools then 1 else 0) +
    (if 0 < s.configFiles then 1 else 0) + (if 5 < s.configFiles then 1 else 0)

/-- Confidence from 0 to 1. -/
def confidence (s : Signals) : Binary64 := Binary64.ofRatio false s.tenths 10

theorem tenths_bounds (s : Signals) : 3 ≤ s.tenths ∧ s.tenths ≤ 10 := by
  unfold tenths
  omega

end Signals

end LintPlan
