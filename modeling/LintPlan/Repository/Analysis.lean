import LintPlan.Repository.ConfigFiles
import LintPlan.Repository.Languages
import LintPlan.Repository.Manifests
import LintPlan.Repository.Root
import LintPlan.Repository.Walk
/-!
# Analysis of repositories

The profile of a repository: what a walk below its root lists, and what the manifests at the root show.
-/

namespace LintPlan

/-- How deep an analysis looks. -/
structure AnalysisDepths where
  /-- The depth of the walk. -/
  scan : Nat
  /-- The depth down to which configuration files count. -/
  config : Nat
  deriving DecidableEq, Repr

/-- The depths of an analysis that nobody changed. -/
def AnalysisDepths.standard : AnalysisDepths := ⟨12, WalkOptions.configDepth⟩

/-- The depths for a walk down to a depth. -/
def AnalysisDepths.ofScan (depth : Nat) : AnalysisDepths :=
  ⟨max depth 1, min WalkOptions.configDepth (max depth 1)⟩

namespace WalkEntry

/-- The number of lines of a file. -/
def lines (e : WalkEntry) : Nat :=
  match e.node with
  | .file content _ => LanguageStat.countLines content
  | _ => 0

/-- The language of a file, if its name is a text. -/
def language? (e : WalkEntry) : Option Language := (e.fileName?.bind FileName.text?).bind Language.ofNamedFile?

/-- The language of a file with the number of its lines. -/
def languageLines? (e : WalkEntry) : Option (Language × Nat) := e.language?.map fun l => (l, e.lines)

/-- The place of a file in its repository, as it is shown. -/
def placed (e : WalkEntry) : PlacedFile := ⟨e.path, e.depth⟩

end WalkEntry

namespace Profile

/-- The profile of a repository from what a walk lists and what its manifests show. -/
def assemble (files directories : List WalkEntry) (configDepth : Nat)
    (detect : List Language → FrameworkReport) (buildTools : List BuildTool) : Profile :=
  let languages := LanguageStat.gather (files.filterMap WalkEntry.languageLines?)
  let (primary, secondary) := LanguageStat.split languages
  let found := detect (primary ++ secondary)
  let configFiles :=
    ConfigFile.locate ((files.filter fun e => e.depth ≤ configDepth).map WalkEntry.placed)
  let stats : RepoStats :=
    { files := files.length
      directories := directories.length
      maxDepth := ((files ++ directories).map WalkEntry.depth).foldl max 0
      totalLines := total (languages.map (·.lines)) }
  { primary := primary
    secondary := secondary
    languages := languages
    frameworks := found.frameworks
    buildTools := buildTools
    configFiles := configFiles
    complexity := Complexity.ofScore (Complexity.score stats languages.length)
    confidence := Signals.confidence
      ⟨languages.length, found.frameworks.length, buildTools.length, configFiles.length⟩
    stats := stats
    warnings := found.warnings }

/-- The profile of the repository with a root. -/
def ofRoot (t : FileTree) (depths : AnalysisDepths) (root : Location) : Profile :=
  let options := WalkOptions.toDepth depths.scan
  assemble (t.walkFiles options root) (t.walkDirectories options root) depths.config
    (Framework.detect t root) (BuildTool.detect t root)

/-- The profile of the repository at a path. -/
def analyze (t : FileTree) (here : Location) (depths : AnalysisDepths) (path : String) :
    Except AnalysisFault Profile :=
  (t.repositoryRoot here path).map (ofRoot t depths)

end Profile

end LintPlan
