import LintPlan.Repository.Profile
import LintPlan.Document.Configuration
/-!
# Profiles as documents

The JSON form of profiles, and the way back. Warnings are left out when there are none.
-/

namespace LintPlan

open Json

/-- A list of languages by name. -/
def Json.languages (ls : List Language) : Json := .arr (ls.map fun l => .str l.name)

namespace LanguageStat

/-- The document of a language's share. -/
def toJson (s : LanguageStat) : Json :=
  .obj [("language", .str s.language.name), ("files", nat s.files), ("lines", nat s.lines)]

/-- Reads the document of a language's share. -/
def ofJson? (j : Json) : Option LanguageStat := do
  let r ← toRecord? strict false [["language"], ["files"], ["lines"]] j
  let language ← r.required "language" (toChoice? strict Language.ofName?)
  let files ← r.required "files" toWord64?
  let lines ← r.required "lines" toWord64?
  some ⟨language, files, lines⟩

end LanguageStat

namespace Framework

/-- The document of a framework. -/
def toJson (f : Framework) : Json :=
  .obj [("name", .str f.name), ("language", .str f.language.name), ("source", .str f.source)]

/-- Reads the document of a framework. -/
def ofJson? (j : Json) : Option Framework := do
  let r ← toRecord? strict false [["name"], ["language"], ["source"]] j
  let name ← r.required "name" toText?
  let language ← r.required "language" (toChoice? strict Language.ofName?)
  let source ← r.required "source" toText?
  some ⟨name, language, source⟩

end Framework

namespace BuildTool

/-- The document of a build tool. -/
def toJson (t : BuildTool) : Json := .obj [("name", .str t.name), ("file", .str t.file)]

/-- Reads the document of a build tool. -/
def ofJson? (j : Json) : Option BuildTool := do
  let r ← toRecord? strict false [["name"], ["file"]] j
  let name ← r.required "name" toText?
  let file ← r.required "file" toText?
  some ⟨name, file⟩

end BuildTool

namespace ConfigFile

/-- The document of a configuration file. -/
def toJson (f : ConfigFile) : Json :=
  .obj [("path", .str f.path), ("type", .str f.kind.name), ("importance", .str f.importance.name)]

/-- Reads the document of a configuration file. -/
def ofJson? (j : Json) : Option ConfigFile := do
  let r ← toRecord? strict false [["path"], ["type"], ["importance"]] j
  let path ← r.required "path" toText?
  let kind ← r.required "type" (toChoice? strict ConfigKind.ofName?)
  let importance ← r.required "importance" (toChoice? strict Importance.ofName?)
  some ⟨path, kind, importance⟩

end ConfigFile

namespace RepoStats

/-- The document of the counts of a walk. -/
def toJson (s : RepoStats) : Json :=
  .obj [("files", nat s.files), ("directories", nat s.directories), ("max_depth", nat s.maxDepth),
        ("total_lines", nat s.totalLines)]

/-- Reads the document of the counts of a walk. -/
def ofJson? (j : Json) : Option RepoStats := do
  let r ← toRecord? strict false [["files"], ["directories"], ["max_depth"], ["total_lines"]] j
  let files ← r.required "files" toWord64?
  let directories ← r.required "directories" toWord64?
  let maxDepth ← r.required "max_depth" toWord64?
  let totalLines ← r.required "total_lines" toWord64?
  some ⟨files, directories, maxDepth, totalLines⟩

end RepoStats

namespace Profile

/-- The document of a profile. -/
def toJson (p : Profile) : Json :=
  .obj ([("primary", Json.languages p.primary), ("secondary", Json.languages p.secondary),
     ("languages", .arr (p.languages.map LanguageStat.toJson)),
     ("frameworks", .arr (p.frameworks.map Framework.toJson)),
     ("build_tools", .arr (p.buildTools.map BuildTool.toJson)),
     ("config_files", .obj (p.configFiles.map fun e => (e.1, e.2.toJson))),
     ("complexity", .str p.complexity.name), ("confidence", .float p.confidence),
     ("stats", p.stats.toJson)] ++ entryIfAny "warnings" texts p.warnings)

/-- The fields of a profile in their order. -/
def fields : List FieldNames :=
  [["primary"], ["secondary"], ["languages"], ["frameworks"], ["build_tools"], ["config_files"],
   ["complexity"], ["confidence"], ["stats"], ["warnings"]]

/-- Reads the document of a profile. -/
def ofJson? (j : Json) : Option Profile := do
  let r ← toRecord? strict false fields j
  let primary ← r.required "primary" (toList? (toChoice? strict Language.ofName?))
  let secondary ← r.required "secondary" (toList? (toChoice? strict Language.ofName?))
  let languages ← r.required "languages" (toList? LanguageStat.ofJson?)
  let frameworks ← r.required "frameworks" (toList? Framework.ofJson?)
  let buildTools ← r.required "build_tools" (toList? BuildTool.ofJson?)
  let configFiles ← r.required "config_files" (toTextMap? ConfigFile.ofJson?)
  let complexity ← r.required "complexity" (toChoice? strict Complexity.ofName?)
  let confidence ← r.required "confidence" toFloat?
  let stats ← r.required "stats" RepoStats.ofJson?
  let warnings ← r.withDefault "warnings" [] (toList? toText?)
  some ⟨primary, secondary, languages, frameworks, buildTools, configFiles, complexity, confidence,
    stats, warnings⟩

end Profile

end LintPlan
