import LintPlan.Linter.Set
import LintPlan.MemorySize
/-!
# Configurations

What a linting run is asked to do: which linters run, how much time and memory they get, what reports
come out, and how findings of security scanners are treated.
-/

namespace LintPlan

/-! ## Choices -/

/-- How results are kept between runs. -/
inductive CacheStrategy where
  | none | conservative | aggressive
  deriving DecidableEq, Repr, Inhabited

namespace CacheStrategy

/-- Every strategy. -/
def all : List CacheStrategy := [.none, .conservative, .aggressive]

/-- The name of a strategy in every document. -/
def name : CacheStrategy → String
  | .none => "none"
  | .conservative => "conservative"
  | .aggressive => "aggressive"

/-- The strategy with a name. -/
def ofName? (s : String) : Option CacheStrategy := all.find? fun x => x.name == s

/-- Reads a name in any case. -/
def parse? (s : String) : Option CacheStrategy := ofName? (String.ofList (Text.lower s.toList))

theorem ofName?_name (x : CacheStrategy) : ofName? x.name = some x := by cases x <;> rfl

end CacheStrategy

/-- Formats of reports. -/
inductive ReportFormat where
  | json | sarif | text | html | markdown
  deriving DecidableEq, Repr, Inhabited

namespace ReportFormat

/-- Every format. -/
def all : List ReportFormat := [json, sarif, text, html, markdown]

/-- The name of a format in every document. -/
def name : ReportFormat → String
  | json => "json"
  | sarif => "sarif"
  | text => "text"
  | html => "html"
  | markdown => "markdown"

/-- The format with a name. -/
def ofName? (s : String) : Option ReportFormat := all.find? fun x => x.name == s

/-- Other names that a user may write, in any case. -/
def synonyms : List (String × ReportFormat) := [("console", text), ("md", markdown)]

/-- Reads a name or another name of a format in any case. -/
def parse? (s : String) : Option ReportFormat :=
  let word := String.ofList (Text.lower s.toList)
  (ofName? word).orElse fun _ => synonyms.lookup word

/-- Formats that programs read. -/
def isMachineReadable (f : ReportFormat) : Bool := f == json || f == sarif

theorem ofName?_name (x : ReportFormat) : ofName? x.name = some x := by cases x <;> rfl

end ReportFormat

/-! ## The parts of a configuration -/

/-- Bounds on what the container may use. -/
structure ResourceLimits where
  /-- A size as people write it, see `MemorySize.parse?`. -/
  maxMemory : String
  maxCpus : Nat
  deriving DecidableEq, Repr

/-- Time, parallelism and caching. -/
structure Performance where
  /-- Seconds that the whole run may take. -/
  maxExecutionTime : Nat
  /-- Linters that run at a time. -/
  parallelism : Nat
  limits : ResourceLimits
  /-- How results are kept between runs. -/
  cache : CacheStrategy
  /-- Are only changed files looked at? -/
  incremental : Bool
  deriving DecidableEq, Repr

/-- The budget of a run that nobody tuned. -/
def Performance.standard : Performance where
  maxExecutionTime := 300
  parallelism := 4
  limits := ⟨"2GB", 4⟩
  cache := .conservative
  incremental := false

/-- Reports. -/
structure Reporting where
  /-- Formats, in the order in which they are written. -/
  formats : List ReportFormat
  /-- The directory for reports. -/
  outputDir : String
  /-- Do reports list the linters that found nothing? -/
  showPassed : Bool
  deriving DecidableEq, Repr

/-- The reports of a run that nobody changed. -/
def Reporting.standard : Reporting := ⟨[.json], "lint-reports", false⟩

/-- Security scanning. -/
structure Security where
  enabled : Bool
  /-- The least severity of findings that are reported. -/
  severityThreshold : Severity
  /-- Are secrets looked for? -/
  secretScanning : Bool
  /-- Are dependencies looked through? -/
  dependencyScanning : Bool
  deriving DecidableEq, Repr

/-- The scanning of a run that nobody changed. -/
def Security.standard : Security := ⟨true, .warning, true, false⟩

/-- What a linting run is asked to do. -/
structure Configuration where
  linters : LinterSet
  performance : Performance
  reporting : Reporting
  security : Security
  deriving DecidableEq, Repr

/-- The configuration without linters that nobody tuned. -/
def Configuration.standard : Configuration := ⟨.empty, .standard, .standard, .standard⟩

end LintPlan
