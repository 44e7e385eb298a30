import LintPlan.Configuration
/-!
# Plans as text

The part of a configuration that the linting container needs, as lines `KEY=value`: the settings in the
order of their keys under a heading. The same settings are handed to the container as environment
variables. Reading ignores blank lines, comments, the order of the lines and keys that it does not
know; the last value of a key counts.
-/

namespace LintPlan

/-- What a written plan says. -/
structure WrittenPlan where
  /-- The linters that are on. -/
  enabled : List String
  /-- The linters that are off. -/
  disabled : List String
  /-- Time, parallelism and caching. -/
  performance : Performance
  reportFormats : List ReportFormat
  outputDir : String
  securityScan : Bool
  /-- The least severity of findings that are reported. -/
  securitySeverity : Severity
  deriving DecidableEq, Repr

namespace PlanText

/-! ## Writing -/

/-- The first line. -/
def heading : String := "# lintscope execution plan"

/-- A list on one line. -/
def listText (items : List String) : String := Text.joined "," items

/-- A truth value. -/
def boolText (b : Bool) : String := if b then "true" else "false"

/-- A number. -/
def numberText (n : Nat) : String := String.ofList (Text.numeral n)

/-- The settings of a configuration, sorted by key. -/
def settings (c : Configuration) : List (String × String) :=
  let perf := c.performance
  [("CACHE_STRATEGY", perf.cache.name),
   ("DISABLE_LINTERS", listText c.linters.disabled),
   ("ENABLE_LINTERS", listText c.linters.enabledNames),
   ("INCREMENTAL_SCAN", boolText perf.incremental),
   ("LOG_LEVEL", "INFO"),
   ("MAX_CPUS", numberText perf.limits.maxCpus),
   ("MAX_EXECUTION_TIME", numberText perf.maxExecutionTime),
   ("MAX_MEMORY", perf.limits.maxMemory),
   ("PARALLEL", boolText (decide (1 < perf.parallelism))),
   ("PARALLEL_PROCESS_NUMBER", numberText perf.parallelism),
   ("REPORT_FORMATS", listText (c.reporting.formats.map ReportFormat.name)),
   ("REPORT_OUTPUT_FOLDER", c.reporting.outputDir),
   ("SECURITY_SCAN", boolText c.security.enabled),
   ("SECURITY_SEVERITY", c.security.severityThreshold.name)]

/-- A setting as a line. -/
def settingLine (setting : String × String) : String := setting.1 ++ "=" ++ setting.2 ++ "\n"

/-- The text of a plan. -/
def render (c : Configuration) : String :=
  String.join ((heading ++ "\n") :: (settings c).map settingLine)

/-! ## Reading -/

/-- Why a text is no plan. -/
inductive Fault where
  /-- A line that is no setting; lines are counted from 1. -/
  | badLine (number : Nat)
  /-- A key without a line. -/
  | missing (key : String)
  /-- A value that the key does not take. -/
  | invalid (key value : String)
  /-- A format of reports that there is not. -/
  | unknownFormat (name : String)
  deriving DecidableEq, Repr

/-- The wording of a fault. -/
def Fault.message : Fault → String
  | .badLine number => "line " ++ toString number ++ ": expected KEY=value"
  | .missing key => "missing " ++ key
  | .invalid key value => "invalid " ++ key ++ ": '" ++ value ++ "'"
  | .unknownFormat name => "unknown report format '" ++ name ++ "'"

/-- What a line says: a setting, nothing, or something that is no setting. -/
inductive Line where
  /-- Blank, or a comment. -/
  | skipped
  /-- A key and its value, both trimmed. -/
  | setting (key value : String)
  /-- Neither. -/
  | bad
  deriving DecidableEq, Repr

/-- Reads a line. -/
def readLine (line : List Char) : Line :=
  let cs := Text.trim line
  if cs.isEmpty || cs.head? == some '#' then .skipped
  else match Text.cut '=' cs with
    | some (key, value) => .setting (String.ofList (Text.trim key)) (String.ofList (Text.trim value))
    | none => .bad

/-- Settings from the lines after line `number`, the last line first. -/
def readLines (number : Nat) (done : List (String × String)) :
    List (List Char) → Except Fault (List (String × String))
  | [] => .ok done
  | line :: rest =>
    match readLine line with
    | .skipped => readLines (number + 1) done rest
    | .setting key value => readLines (number + 1) ((key, value) :: done) rest
    | .bad => .error (.badLine (number + 1))

/-- The items of a list on one line; blanks around items and empty items do not count. -/
def readList (value : String) : List String :=
  ((Text.splitOn ',' value.toList).map fun item => String.ofList (Text.trim item)).filter (· != "")

/-- Reads a truth value. -/
def readBool (value : String) : Option Bool :=
  if value == "true" then some true else if value == "false" then some false else none

/-- Reads a number of 64 bits. -/
def readWord64 (value : String) : Option Nat := Text.readNumeral Text.maxWord64 value.toList

/-- Reads a number of 32 bits. -/
def readWord32 (value : String) : Option Nat := Text.readNumeral Text.maxWord32 value.toList

/-- The value of a key. -/
def rawSetting (entries : List (String × String)) (key : String) : Except Fault String :=
  match entries.lookup key with
  | some value => .ok value
  | none => .error (.missing key)

/-- The value of a key, read. -/
def readSetting {α : Type} (entries : List (String × String)) (key : String) (f : String → Option α) :
    Except Fault α :=
  match rawSetting entries key with
  | .error e => .error e
  | .ok value =>
    match f value with
    | some a => .ok a
    | none => .error (.invalid key value)

/-- Formats by name, up to the first that there is not. -/
def readFormats : List String → Except Fault (List ReportFormat)
  | [] => .ok []
  | name :: names =>
    match ReportFormat.parse? name with
    | none => .error (.unknownFormat name)
    | some f =>
      match readFormats names with
      | .error e => .error e
      | .ok fs => .ok (f :: fs)

/-- The plan that settings describe. -/
def ofSettings (entries : List (String × String)) : Except Fault WrittenPlan := do
  let reportFormats ← readFormats (readList (← rawSetting entries "REPORT_FORMATS"))
  let enabled ← rawSetting entries "ENABLE_LINTERS"
  let disabled ← rawSetting entries "DISABLE_LINTERS"
  let maxExecutionTime ← readSetting entries "MAX_EXECUTION_TIME" readWord64
  let parallelism ← readSetting entries "PARALLEL_PROCESS_NUMBER" readWord32
  let maxMemory ← rawSetting entries "MAX_MEMORY"
  let maxCpus ← readSetting entries "MAX_CPUS" readWord32
  let cache ← readSetting entries "CACHE_STRATEGY" CacheStrategy.parse?
  let incremental ← readSetting entries "INCREMENTAL_SCAN" readBool
  let outputDir ← rawSetting entries "REPORT_OUTPUT_FOLDER"
  let securityScan ← readSetting entries "SECURITY_SCAN" readBool
  let securitySeverity ← readSetting entries "SECURITY_SEVERITY" Severity.parse?
  return {
    enabled := readList enabled
    disabled := readList disabled
    performance := ⟨maxExecutionTime, parallelism, ⟨maxMemory, maxCpus⟩, cache, incremental⟩
    reportFormats := reportFormats
    outputDir := outputDir
    securityScan := securityScan
    securitySeverity := securitySeverity }

/-- Reads the text of a plan. -/
def read (text : String) : Except Fault WrittenPlan :=
  match readLines 0 [] (Text.lines text.toList) with
  | .error e => .error e
  | .ok entries => ofSettings entries

end PlanText

end LintPlan
