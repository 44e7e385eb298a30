import LintPlan.Report.Results
import LintPlan.Report.EmbeddedReport
import LintPlan.Text.Letters
/-!
# Lines of a linting log

Lines of four kinds: a status line says how a linter ended, a row of the summary table gives its
numbers, other lines of the table are borders, and an issue line gives a place in a file with a message.
-/

namespace LintPlan

namespace LogLine

/-! ## Status lines -/

/-- The marks in front of a status line, with what they mean. -/
def outcomeOfMark (c : Char) : Option Outcome :=
  if c == '✅' || c == '✔' then some .success
  else if c == '❌' || c == '✖' then some .failed
  else none

/-- A character of a descriptor: `A` to `Z`, `0` to `9` and `_`. -/
def isDescriptorChar (c : Char) : Bool := c.isUpper || c.isDigit || c == '_'

/-- A character of a linter's name on a status line. -/
def isNameChar (c : Char) : Bool := Text.isWordChar c || c == '.' || c == '-'

/-- What a function reads at the first place where it reads anything. -/
def firstRead {α : Type} (f : List Char → Option α) : List Char → Option α
  | [] => f []
  | c :: cs => (f (c :: cs)).orElse fun _ => firstRead f cs

/-- A run of digits with blanks and the word after it. -/
def countOf (word : List Char) (cs : List Char) : Option (List Char) :=
  let digits := cs.takeWhile Text.isDecimal
  let rest := cs.dropWhile Text.isDecimal
  let blanks := rest.takeWhile Text.isBlank
  if digits.isEmpty || blanks.isEmpty then none
  else (Text.afterWord word (rest.dropWhile Text.isBlank)).map fun _ => digits

/-- The first number in front of a word; a number that does not fit 64 bits counts as zero. -/
def countBefore (word : List Char) (cs : List Char) : Nat :=
  match firstRead (countOf word) cs with
  | some digits => (Text.readNumeral Text.maxWord64 digits).getD 0
  | none => 0

/-- Digits with an optional fraction, between `(` and `s)`. -/
def elapsedAt : List Char → Option (List Char)
  | '(' :: cs =>
    let whole := cs.takeWhile Text.isDecimal
    let rest := cs.dropWhile Text.isDecimal
    let fraction := match rest with
      | '.' :: ds => ds.takeWhile Text.isDecimal
      | _ => []
    let number := if fraction.isEmpty then whole else whole ++ '.' :: fraction
    let rest := if fraction.isEmpty then rest else rest.drop (1 + fraction.length)
    if whole.isEmpty then none else (Text.after ['s', ')'] rest).map fun _ => number
  | _ => none

/-- The first time in brackets, in milliseconds. -/
def elapsed (cs : List Char) : Option Nat :=
  ((firstRead elapsedAt cs).bind Binary64.read).map Duration.milliseconds

/-- Reads a status line. -/
def status? (line : List Char) : Option LinterResult :=
  match Text.trimStart line with
  | [] => none
  | mark :: rest => do
    let outcome ← outcomeOfMark mark
    let rest ← Text.after "Linted [".toList (Text.trimStart rest)
    let descriptor := rest.takeWhile isDescriptorChar
    let rest ← Text.after "] files with [".toList (rest.dropWhile isDescriptorChar)
    let name := rest.takeWhile isNameChar
    let rest ← Text.after [']'] (rest.dropWhile isNameChar)
    if descriptor.isEmpty || name.isEmpty then none
    else some { LinterResult.blank (String.ofList name) outcome with
      errors := countBefore "error".toList rest
      warnings := countBefore "warning".toList rest
      duration := elapsed rest }

/-! ## Rows of the table -/

/-- A text without bars at both ends. -/
def dropBars (cs : List Char) : List Char :=
  Text.dropEndWhile (· == '|') (cs.dropWhile (· == '|'))

/-- The cells of a row. -/
def cells (row : List Char) : List (List Char) := (Text.splitOn '|' (dropBars row)).map Text.trim

/-- A cell without the unit for seconds at its end. -/
def withoutUnit (cell : List Char) : List Char := Text.dropEndWhile (· == 's') cell

/-- The number in a cell; anything else counts as zero. -/
def cellNumber (cell : List Char) : Nat := (Text.readNumeral Text.maxWord64 (withoutUnit cell)).getD 0

/-- The time in a cell, in milliseconds. -/
def cellTime (cell : List Char) : Option Nat := (Binary64.read (withoutUnit cell)).map Duration.milliseconds

/-- The outcome that the first cell of a row begins with. -/
def cellOutcome (cell : List Char) : Option Outcome :=
  match cell.head? with
  | some '✅' => some .success
  | some '❌' => some .failed
  | _ => none

/-- Reads a row of the table: descriptor, linter, mode, files, fixed, errors, warnings and time. -/
def row? (line : List Char) : Option LinterResult :=
  let line := Text.trim line
  if line.head? != some '|' then none
  else match cells line with
    | descriptor :: name :: _ :: files :: fixable :: errors :: warnings :: more =>
      (cellOutcome descriptor).map fun outcome =>
        { name := String.ofList name
          outcome := outcome
          files := cellNumber files
          errors := cellNumber errors
          warnings := cellNumber warnings
          fixable := cellNumber fixable
          duration := more.head?.bind cellTime
          issues := [] }
    | _ => none

/-- Does the line belong to the table, with a bar or a plus sign in front? -/
def isBorder (line : List Char) : Bool :=
  match (Text.trimStart line).head? with
  | some c => c == '|' || c == '+'
  | none => false

/-! ## Issue lines -/

/-- A character of a file on an issue line. -/
def isFileChar (c : Char) : Bool :=
  !(Text.isBlank c || [':', '|', '[', ']', '(', ')'].contains c)

/-- A path with a separator, or a name with an extension of ASCII letters and digits. -/
def looksLikePath (file : List Char) : Bool :=
  file.any (fun c => c == '/' || c == '\\') ||
    match Path.cutLastDot file with
    | some (stem, ext) => !stem.isEmpty && !ext.isEmpty && ext.all Char.isAlphanum
    | none => false

/-- The words for severities on issue lines. Of two that begin alike the longer one stands first. -/
def severityWords : List (List Char) :=
  ["error", "warning", "warn", "info", "note", "major", "minor", "critical", "blocker", "fatal"].map
    String.toList

/-- A character that may stand there or not. -/
def skipOptional (c : Char) : List Char → List Char
  | d :: cs => if d = c then cs else d :: cs
  | [] => []

/-- A severity word after an optional bracket, and the message behind it. The word ends with an optional
bracket and colon, and blanks. -/
def severityWord (cs : List Char) : Option (List Char × List Char) :=
  let body := skipOptional '[' cs
  severityWords.findSome? fun word =>
    match Text.afterWord word body with
    | none => none
    | some rest =>
      let rest := skipOptional ':' (skipOptional ']' rest)
      if (rest.head?.map Text.isBlank).getD false then
        some (body.take word.length, Text.trimStart rest)
      else none

/-- A character of a rule's name. -/
def isRuleChar (c : Char) : Bool :=
  Text.isWordChar c || c == '@' || c == '/' || c == '-' || c == '.'

/-- The name between brackets at the end of a message. -/
def ruleBetween (opening closing : Char) (message : List Char) : Option String :=
  match message.reverse with
  | c :: rest =>
    let name := rest.takeWhile isRuleChar
    if c = closing && !name.isEmpty && (rest.dropWhile isRuleChar).head? == some opening then
      some (String.ofList name.reverse)
    else none
  | [] => none

/-- The rule at the end of a message, in round or square brackets. -/
def rule? (message : List Char) : Option String :=
  (ruleBetween '(' ')' message).orElse fun _ => ruleBetween '[' ']' message

/-- Does a message say that the issue can be fixed? -/
def saysFixable (message : List Char) : Bool :=
  Text.contains "[*]".toList message ||
    Text.contains "fixable".toList (message.map Char.toLower)

/-- A colon and digits. -/
def column? : List Char → Option (List Char × List Char)
  | ':' :: cs =>
    let digits := cs.takeWhile Text.isDecimal
    if digits.isEmpty then none else some (digits, cs.dropWhile Text.isDecimal)
  | _ => none

/-- Reads an issue line: file, line and column, then a severity if there is one, then the message. -/
def issue? (line : List Char) : Option Issue := do
  let cs := Text.trimEnd line
  let file := cs.takeWhile isFileChar
  let rest ← Text.after [':'] (cs.dropWhile isFileChar)
  let number := rest.takeWhile Text.isDecimal
  let rest := rest.dropWhile Text.isDecimal
  let (column, rest) := match column? rest with
    | some (digits, rest) => (some digits, rest)
    | none => (none, rest)
  let rest := skipOptional ':' rest
  let text := Text.trimStart rest
  if file.isEmpty || number.isEmpty || !(rest.head?.map Text.isBlank).getD false ||
      text.isEmpty || !looksLikePath file then none
  else
    let (word, message) := (severityWord text).getD ([], text)
    let message := Text.trim message
    some {
      file := String.ofList file
      line := Text.readNumeral Text.maxWord32 number
      column := column.bind (Text.readNumeral Text.maxWord32)
      severity := IssueSeverity.ofWord (String.ofList word)
      rule := rule? message
      message := String.ofList message
      fixable := saysFixable message }

end LogLine

/-! ## Kinds of lines -/

/-- What a line of a log is. -/
inductive LogLine where
  /-- How a linter ended. -/
  | status (result : LinterResult)
  /-- The numbers of a linter. -/
  | row (result : LinterResult)
  /-- Another line of the table. -/
  | border
  /-- Any other line. -/
  | text (line : List Char)

/-- The kind of a line. -/
def LogLine.ofLine (line : List Char) : LogLine :=
  match LogLine.status? line with
  | some r => .status r
  | none =>
    match LogLine.row? line with
    | some r => .row r
    | none => if LogLine.isBorder line then .border else .text line

/-! ## Reading a log -/

namespace LinterResult

/-- What a later record of the same linter adds: its outcome counts, numbers grow to the larger one,
and the first time stays. -/
def absorb (r later : LinterResult) : LinterResult :=
  { r with
    outcome := later.outcome
    files := max r.files later.files
    errors := max r.errors later.errors
    warnings := max r.warnings later.warnings
    fixable := max r.fixable later.fixable
    duration := r.duration.orElse fun _ => later.duration }

/-- Adds a record to the results: to that of the same linter, or at the end. -/
def record (r : LinterResult) : List LinterResult → List LinterResult
  | [] => [r]
  | s :: rest => if s.name = r.name then s.absorb r :: rest else s :: record r rest

/-- Adds an issue to the result of a linter, before those that it has. -/
def addIssue (name : String) (i : Issue) : List LinterResult → List LinterResult
  | [] => []
  | r :: rest =>
    if r.name = name then { r with issues := i :: r.issues } :: rest else r :: addIssue name i rest

end LinterResult

/-- What has been read of a log: the results, and the linter whose issues come next. -/
structure LogState where
  /-- The results, in the order in which the linters first occur, each with its newest issue first. -/
  results : List LinterResult
  /-- The linter of the last status line, until the table begins. -/
  current : Option String

namespace LogState

/-- Reads one more line. -/
def step (s : LogState) (line : List Char) : LogState :=
  match LogLine.ofLine line with
  | .status r => ⟨r.record s.results, some r.name⟩
  | .row r => ⟨r.record s.results, none⟩
  | .border => ⟨s.results, none⟩
  | .text line =>
    match s.current, LogLine.issue? line with
    | some name, some i => ⟨LinterResult.addIssue name i s.results, s.current⟩
    | _, _ => s

/-- The results that have been read, each with its issues in the order of the log. -/
def read (s : LogState) : List LinterResult := s.results.map fun r => { r with issues := r.issues.reverse }

end LogState

/-- The results that the lines of a log give. -/
def readLog (output : List Char) : List LinterResult :=
  ((Text.lines output).foldl LogState.step ⟨[], none⟩).read

end LintPlan
