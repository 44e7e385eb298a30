import LintPlan.Linter.Catalog
import LintPlan.Linter.Set
import LintPlan.Repository.Profile
/-!
# Choosing linters for a profile

Candidates are the tools for the languages of a profile, then those that its frameworks call for, then
tools for security, and last tools for quality, format and documentation. Each tool is kept once, and
of tools that conflict the first is kept.
-/

namespace LintPlan.Planning

/-- Categories of tools that every repository gets if they lint one of its languages. -/
def supportCategories : List Category := [.quality, .format, .documentation]

/-- A tool for every repository, or for one of the languages. -/
def isRelevant (languages : List Language) (t : Template) : Bool :=
  t.isUniversal || languages.any t.supportsLanguage

/-- The tool, bound to the first of the languages that it lints. -/
def bindFirst (languages : List Language) (t : Template) : Linter :=
  t.bind (languages.find? t.supportsLanguage)

/-- Tools for each language. -/
def languageCandidates (languages : List Language) : List Linter :=
  languages.flatMap fun l => (Catalog.forLanguage l).map (·.bind (some l))

/-- Tools that each framework calls for. -/
def frameworkCandidates (frameworks : List Framework) : List Linter :=
  frameworks.flatMap fun f => (Catalog.forFramework f.name).map (·.bind (some f.language))

/-- Relevant tools of the categories. -/
def categoryCandidates (categories : List Category) (languages : List Language) : List Linter :=
  (Catalog.templates.filter fun t => categories.contains t.category && isRelevant languages t).map
    (bindFirst languages)

/-- All candidates for a profile, in the order in which they are looked at. -/
def candidates (p : Profile) : List Linter :=
  languageCandidates p.detectedLanguages ++ frameworkCandidates p.frameworks ++
    categoryCandidates [.security] p.detectedLanguages ++
    categoryCandidates supportCategories p.detectedLanguages

/-- Keeps the first linter of each name that is not in `seen`. -/
def firstOfEachFrom (seen : List String) : List Linter → List Linter
  | [] => []
  | l :: ls =>
    if seen.contains l.name then firstOfEachFrom seen ls
    else l :: firstOfEachFrom (l.name :: seen) ls

/-- Keeps the first linter of each name. -/
def firstOfEach (ls : List Linter) : List Linter := firstOfEachFrom [] ls

/-- Adds a linter, or lists it as off if it conflicts with one that is on. -/
def addUnlessRival (s : LinterSet) (l : Linter) : LinterSet :=
  if s.enabled.any fun kept => Catalog.conflicts kept.name l.name then
    { s with disabled := s.disabled ++ [l.name] }
  else s.add l

/-- The linters in their order, without those that conflict with one before them. -/
def withoutConflicts (ls : List Linter) : LinterSet := ls.foldl addUnlessRival .empty

/-- The linters for a profile before preferences count. -/
def selected (p : Profile) : LinterSet := withoutConflicts (firstOfEach (candidates p))

end LintPlan.Planning
