import LintPlan.Language
import LintPlan.Repository.Scoring
/-!
# Profiles of repositories

What a repository is made of: its languages, the frameworks and build tools that its manifests show,
the configuration files of its tools, its complexity, and how far to trust all this.
-/

namespace LintPlan

/-- How much of a repository is written in a language. -/
structure LanguageStat where
  language : Language
  files : Nat
  lines : Nat
  deriving DecidableEq, Repr

/-- A framework that a manifest declares. -/
structure Framework where
  name : String
  /-- The language whose manifest declares it. -/
  language : Language
  /-- The manifest. -/
  source : String
  deriving DecidableEq, Repr

/-- A build tool with the file that shows it. -/
structure BuildTool where
  name : String
  /-- The file that shows it. -/
  file : String
  deriving DecidableEq, Repr

/-- What a configuration file configures. -/
inductive ConfigKind where
  | linter | formatter | typeChecker | build | ci | editor | security | testing | container
  deriving DecidableEq, Repr, Inhabited

namespace ConfigKind

/-- Every kind. -/
def all : List ConfigKind :=
  [linter, formatter, typeChecker, build, ci, editor, security, testing, container]

/-- The name of a kind in every document. -/
def name : ConfigKind → String
  | linter => "linter"
  | formatter => "formatter"
  | typeChecker => "type_checker"
  | build => "build"
  | ci => "ci"
  | editor => "editor"
  | security => "security"
  | testing => "testing"
  | container => "container"

/-- The kind with a name. -/
def ofName? (s : String) : Option ConfigKind := all.find? fun x => x.name == s

theorem ofName?_name (x : ConfigKind) : ofName? x.name = some x := by cases x <;> rfl

end ConfigKind

/-- How much a configuration file says about the wanted plan. -/
inductive Importance where
  | low | medium | high
  deriving DecidableEq, Repr, Inhabited

namespace Importance

/-- Every degree. -/
def all : List Importance := [low, medium, high]

/-- The name of a degree in every document. -/
def name : Importance → String
  | low => "low"
  | medium => "medium"
  | high => "high"

/-- The degree with a name. -/
def ofName? (s : String) : Option Importance := all.find? fun x => x.name == s

theorem ofName?_name (x : Importance) : ofName? x.name = some x := by cases x <;> rfl

end Importance

/-- A configuration file of a tool. -/
structure ConfigFile where
  /-- The path from the root, with slashes. -/
  path : String
  kind : ConfigKind
  importance : Importance
  deriving DecidableEq, Repr

/-- What a repository is made of. -/
structure Profile where
  /-- The main languages. -/
  primary : List Language
  /-- The languages beside them. -/
  secondary : List Language
  /-- Every language with its share. -/
  languages : List LanguageStat
  frameworks : List Framework
  buildTools : List BuildTool
  /-- Configuration files by the name of the tool, sorted by name. -/
  configFiles : List (String × ConfigFile)
  /-- The size class. -/
  complexity : Complexity
  /-- How far to trust the profile, from 0 to 1. -/
  confidence : Binary64
  /-- Counts of the walk. -/
  stats : RepoStats
  /-- Manifests that could not be used. -/
  warnings : List String
  deriving DecidableEq, Repr

namespace Profile

/-- The main languages and then the others. -/
def detectedLanguages (p : Profile) : List Language := p.primary ++ p.secondary

/-- The number of languages with a file. -/
def languageCount (p : Profile) : Nat := p.languages.length

/-- Is the framework among those found? -/
def hasFramework (p : Profile) (name : String) : Bool := p.frameworks.any fun f => f.name == name

end Profile

end LintPlan
