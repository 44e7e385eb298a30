import LintPlan.Display.Banner
import LintPlan.Repository.Profile
import LintPlan.Number.Shortest
/-!
# Profiles for people

The text that shows a profile. Parts without content are left out.
-/

namespace LintPlan.Profile

open Display

/-- Names of languages, or a dash if there are none. -/
def languageNames (ls : List Language) : String :=
  if ls.isEmpty then "-" else Text.joined ", " (ls.map Language.name)

/-- The line of a language's share. -/
def shareLine (s : LanguageStat) : String :=
  "  " ++ s.language.name ++ " (" ++ toString s.files ++ " files, " ++ toString s.lines ++ " lines)\n"

/-- The line of a framework. -/
def frameworkLine (f : Framework) : String :=
  "  " ++ f.name ++ " [" ++ f.language.name ++ "] from " ++ f.source ++ "\n"

/-- The line of a configuration file. -/
def configLine (e : String × ConfigFile) : String := "  " ++ e.1 ++ ": " ++ e.2.path ++ "\n"

/-- The line of the counts. -/
def countsLine (p : Profile) : String :=
  "complexity: " ++ p.complexity.name ++ " | confidence: " ++ p.confidence.displayHundredths ++
    " | files: " ++ toString p.stats.files ++ " | dirs: " ++ toString p.stats.directories ++
    " | depth: " ++ toString p.stats.maxDepth ++ " | lines: " ++ toString p.stats.totalLines ++ "\n"

/-- The text that shows the profile of the repository at a path. Only the long form lists the shares of all
languages. -/
def display (p : Profile) (path : String) (long : Bool) : String :=
  banner "REPOSITORY PROFILE" ++ "path: " ++ path ++ "\n" ++ p.countsLine ++
    "primary: " ++ languageNames p.primary ++ "\n" ++
    "secondary: " ++ languageNames p.secondary ++ "\n" ++
    showIf (long && !p.languages.isEmpty)
      ("\nlanguages:\n" ++ String.join (p.languages.map shareLine)) ++
    showIf (!p.frameworks.isEmpty)
      ("\nframeworks:\n" ++ String.join (p.frameworks.map frameworkLine)) ++
    showIf (!p.buildTools.isEmpty)
      ("\nbuild tools: " ++ Text.joined ", " (p.buildTools.map (·.name)) ++ "\n") ++
    showIf (!p.configFiles.isEmpty)
      ("\nconfig files:\n" ++ String.join (p.configFiles.map configLine)) ++
    String.join (p.warnings.map fun w => "\n⚠ " ++ w ++ "\n")

end LintPlan.Profile
