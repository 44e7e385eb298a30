import LintPlan.Configuration
import LintPlan.Json.Decode
/-!
# Configurations as documents

The JSON form of configurations, and the way back. A linter that is bound to no language has no entry
for it.
-/

namespace LintPlan

open Json

/-- A list of texts. -/
def Json.texts (ss : List String) : Json := .arr (ss.map .str)

/-- A map from texts to lists of texts. -/
def Json.textLists (m : List (String × List String)) : Json := .obj (m.map fun e => (e.1, Json.texts e.2))

/-- An entry that is left out when there is nothing to say. -/
def Json.entryIfSome {α : Type} (key : String) (f : α → Json) : Option α → List (String × Json)
  | some a => [(key, f a)]
  | none => []

/-- An entry that is left out for an empty list. -/
def Json.entryIfAny {α : Type} (key : String) (f : List α → Json) : List α → List (String × Json)
  | [] => []
  | a :: as => [(key, f (a :: as))]

/-- A value or `null`. -/
def Json.orNull {α : Type} (f : α → Json) : Option α → Json
  | some a => f a
  | none => .null

namespace Linter

/-- The document of a linter. -/
def toJson (l : Linter) : Json :=
  .obj ([("name", .str l.name)] ++ entryIfSome "language" (fun x => .str x.name) l.language ++
    [("category", .str l.category.name), ("severity", .str l.severity.name),
     ("enabled", .bool l.enabled), ("rules", texts l.rules), ("include", texts l.scope),
     ("exclude", texts l.outOfScope)])

/-- The fields of a linter in their order. -/
def fields : List FieldNames :=
  [["name"], ["language"], ["category"], ["severity"], ["enabled"], ["rules"], ["include"], ["exclude"]]

/-- Reads the document of a linter. -/
def ofJson? (j : Json) : Option Linter := do
  let r ← toRecord? strict false fields j
  let name ← r.required "name" toText?
  let language ← r.withDefault "language" none (toOption? (toChoice? strict Language.ofName?))
  let category ← r.required "category" (toChoice? strict Category.ofName?)
  let severity ← r.required "severity" (toChoice? strict Severity.ofName?)
  let enabled ← r.required "enabled" toBool?
  let rules ← r.withDefault "rules" [] (toList? toText?)
  let scope ← r.withDefault "include" [] (toList? toText?)
  let outOfScope ← r.withDefault "exclude" [] (toList? toText?)
  some ⟨name, language, category, severity, enabled, rules, scope, outOfScope⟩

end Linter

namespace LinterSet

/-- The document of a set of linters. -/
def toJson (s : LinterSet) : Json :=
  .obj [("enabled", .arr (s.enabled.map Linter.toJson)), ("disabled", texts s.disabled),
        ("custom_rules", textLists s.customRules)]

/-- Reads the document of a set of linters. -/
def ofJson? (j : Json) : Option LinterSet := do
  let r ← toRecord? strict false [["enabled"], ["disabled"], ["custom_rules"]] j
  let enabled ← r.required "enabled" (toList? Linter.ofJson?)
  let disabled ← r.required "disabled" (toList? toText?)
  let customRules ← r.withDefault "custom_rules" [] (toTextMap? (toList? toText?))
  some ⟨enabled, disabled, customRules⟩

end LinterSet

namespace ResourceLimits

/-- The document of bounds for the container. -/
def toJson (l : ResourceLimits) : Json :=
  .obj [("max_memory", .str l.maxMemory), ("max_cpus", nat l.maxCpus)]

/-- Reads the document of bounds for the container. -/
def ofJson? (j : Json) : Option ResourceLimits := do
  let r ← toRecord? strict false [["max_memory"], ["max_cpus"]] j
  let maxMemory ← r.required "max_memory" toText?
  let maxCpus ← r.required "max_cpus" toWord32?
  some ⟨maxMemory, maxCpus⟩

end ResourceLimits

namespace Performance

/-- The document of a budget. -/
def toJson (p : Performance) : Json :=
  .obj [("max_execution_time", nat p.maxExecutionTime), ("parallelism", nat p.parallelism),
        ("resource_limits", p.limits.toJson), ("cache_strategy", .str p.cache.name),
        ("incremental_scanning", .bool p.incremental)]

/-- The fields of a budget in their order. -/
def fields : List FieldNames :=
  [["max_execution_time"], ["parallelism"], ["resource_limits"], ["cache_strategy"],
   ["incremental_scanning"]]

/-- Reads the document of a budget. -/
def ofJson? (j : Json) : Option Performance := do
  let r ← toRecord? strict false fields j
  let maxExecutionTime ← r.required "max_execution_time" toWord64?
  let parallelism ← r.required "parallelism" toWord32?
  let limits ← r.required "resource_limits" ResourceLimits.ofJson?
  let cache ← r.required "cache_strategy" (toChoice? strict CacheStrategy.ofName?)
  let incremental ← r.required "incremental_scanning" toBool?
  some ⟨maxExecutionTime, parallelism, limits, cache, incremental⟩

end Performance

namespace Reporting

/-- The document of the reports. -/
def toJson (x : Reporting) : Json :=
  .obj [("formats", texts (x.formats.map ReportFormat.name)), ("output_dir", .str x.outputDir),
        ("show_passed", .bool x.showPassed)]

/-- Reads the document of the reports. -/
def ofJson? (j : Json) : Option Reporting := do
  let r ← toRecord? strict false [["formats"], ["output_dir"], ["show_passed"]] j
  let formats ← r.required "formats" (toList? (toChoice? strict ReportFormat.ofName?))
  let outputDir ← r.required "output_dir" toText?
  let showPassed ← r.required "show_passed" toBool?
  some ⟨formats, outputDir, showPassed⟩

end Reporting

namespace Security

/-- The document of security scanning. -/
def toJson (s : Security) : Json :=
  .obj [("enabled", .bool s.enabled), ("severity_threshold", .str s.severityThreshold.name),
        ("secret_scanning", .bool s.secretScanning),
        ("dependency_scanning", .bool s.dependencyScanning)]

/-- The fields of security scanning in their order. -/
def fields : List FieldNames :=
  [["enabled"], ["severity_threshold"], ["secret_scanning"], ["dependency_scanning"]]

/-- Reads the document of security scanning. -/
def ofJson? (j : Json) : Option Security := do
  let r ← toRecord? strict false fields j
  let enabled ← r.required "enabled" toBool?
  let threshold ← r.required "severity_threshold" (toChoice? strict Severity.ofName?)
  let secretScanning ← r.required "secret_scanning" toBool?
  let dependencyScanning ← r.required "dependency_scanning" toBool?
  some ⟨enabled, threshold, secretScanning, dependencyScanning⟩

end Security

namespace Configuration

/-- The document of a configuration. -/
def toJson (c : Configuration) : Json :=
  .obj [("linters", c.linters.toJson), ("performance", c.performance.toJson),
        ("reporting", c.reporting.toJson), ("security", c.security.toJson)]

/-- Reads the document of a configuration. -/
def ofJson? (j : Json) : Option Configuration := do
  let r ← toRecord? strict false [["linters"], ["performance"], ["reporting"], ["security"]] j
  let linters ← r.required "linters" LinterSet.ofJson?
  let performance ← r.required "performance" Performance.ofJson?
  let reporting ← r.required "reporting" Reporting.ofJson?
  let security ← r.required "security" Security.ofJson?
  some ⟨linters, performance, reporting, security⟩

end Configuration

end LintPlan
