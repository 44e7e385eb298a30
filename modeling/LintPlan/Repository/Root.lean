import LintPlan.Failure
import LintPlan.FileSystem.Lookup
/-!
# Roots of repositories

The directory that a path to a repository leads to, with all links followed.
-/

namespace LintPlan.FileTree

/-- The directory of the repository at a path. -/
def repositoryRoot (t : FileTree) (here : Location) (path : String) : Except AnalysisFault Location :=
  match t.node here path with
  | .ok (loc, .directory) => .ok loc
  | .ok _ => .error (.notDirectory path)
  | .error .notFound => .error (.notFound path)
  | .error fault => .error (.unreadable path fault)

end LintPlan.FileTree
