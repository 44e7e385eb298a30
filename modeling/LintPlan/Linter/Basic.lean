import LintPlan.Glob
import LintPlan.Language
/-!
# Linters

A template describes a tool of the catalog; a linter is a tool as it stands in a configuration, bound
to a language or to none.
-/

namespace LintPlan

/-! ## Severities and categories -/

/-- How severe a tool's findings are. -/
inductive Severity where
  | info | warning | error
  deriving DecidableEq, Repr, Inhabited

namespace Severity

/-- Every severity, from the least. -/
def all : List Severity := [info, warning, error]

/-- The name of a severity in every document. -/
def name : Severity → String
  | info => "info"
  | warning => "warning"
  | error => "error"

/-- The severity with a name. -/
def ofName? (s : String) : Option Severity := all.find? fun x => x.name == s

/-- The place on the scale. -/
def rank : Severity → Nat
  | info => 0
  | warning => 1
  | error => 2

/-- Other names that a user may write, in any case. -/
def synonyms : List (String × Severity) := [("note", info), ("warn", warning), ("err", error)]

/-- Reads a name or another name of a severity in any case. -/
def parse? (s : String) : Option Severity :=
  let word := String.ofList (Text.lower s.toList)
  (ofName? word).orElse fun _ => synonyms.lookup word

instance : LE Severity := ⟨fun a b => a.rank ≤ b.rank⟩

instance : LT Severity := ⟨fun a b => a.rank < b.rank⟩

instance (a b : Severity) : Decidable (a ≤ b) := inferInstanceAs (Decidable (a.rank ≤ b.rank))

instance (a b : Severity) : Decidable (a < b) := inferInstanceAs (Decidable (a.rank < b.rank))

theorem ofName?_name (x : Severity) : ofName? x.name = some x := by cases x <;> rfl

end Severity

/-- What a tool looks at. -/
inductive Category where
  | language | security | quality | format | documentation | performance | accessibility
  deriving DecidableEq, Repr, Inhabited

namespace Category

/-- Every category. -/
def all : List Category :=
  [language, security, quality, format, documentation, performance, accessibility]

/-- The name of a category in every document. -/
def name : Category → String
  | language => "language"
  | security => "security"
  | quality => "quality"
  | format => "format"
  | documentation => "documentation"
  | performance => "performance"
  | accessibility => "accessibility"

/-- The category with a name. -/
def ofName? (s : String) : Option Category := all.find? fun x => x.name == s

theorem ofName?_name (x : Category) : ofName? x.name = some x := by cases x <;> rfl

end Category

/-! ## Templates and linters -/

/-- A tool of the catalog. -/
structure Template where
  name : String
  /-- Languages that the tool lints. -/
  languages : List Language
  /-- Frameworks that call for the tool. -/
  frameworks : List String
  /-- What the tool looks at. -/
  category : Category
  /-- How severe its findings are. -/
  severity : Severity
  /-- Rules that are switched on. -/
  rules : List String
  /-- Patterns of the files in its scope. -/
  scope : List String
  /-- Patterns of files that are out of its scope all the same. -/
  outOfScope : List String
  /-- Tools that must not run together with it. -/
  rivals : List String
  deriving DecidableEq, Repr

/-- A tool in a configuration. -/
structure Linter where
  name : String
  /-- The language that it is bound to. -/
  language : Option Language
  /-- What the tool looks at. -/
  category : Category
  /-- How severe its findings are. -/
  severity : Severity
  enabled : Bool
  /-- Rules that are switched on. -/
  rules : List String
  /-- Patterns of the files in its scope. -/
  scope : List String
  /-- Patterns of files that are out of its scope all the same. -/
  outOfScope : List String
  deriving DecidableEq, Repr

namespace Template

/-- A tool for every repository, whatever its languages and frameworks. -/
def isUniversal (t : Template) : Bool := t.languages.isEmpty && t.frameworks.isEmpty

/-- Does the tool lint the language? -/
def supportsLanguage (t : Template) (l : Language) : Bool := t.languages.contains l

/-- Does the framework call for the tool? -/
def supportsFramework (t : Template) (framework : String) : Bool := t.frameworks.contains framework

/-- Is a file of the repository in the tool's scope? The path is relative to the root. -/
def matchesFile (t : Template) (path : String) : Bool :=
  t.scope.any (Glob.isMatch false · path) && !t.outOfScope.any (Glob.isMatch false · path)

/-- The tool switched on, bound to a language or to none. -/
def bind (t : Template) (language : Option Language) : Linter where
  name := t.name
  language := language
  category := t.category
  severity := t.severity
  enabled := true
  rules := t.rules
  scope := t.scope
  outOfScope := t.outOfScope

end Template

end LintPlan
