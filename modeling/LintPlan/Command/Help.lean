import LintPlan.Command.Arguments
/-!
# Help

The texts that say how the program is called. The short text has a line for each option; the long one gives each option
a paragraph, with what its values mean. Options are shown by their place among the options that they are declared with,
so that those of a command and those of every command mix; at one place the letter decides, else the name.
-/

namespace LintPlan

namespace CommandName

/-- What a command does. -/
def about : CommandName → String
  | profile => "Detect languages, frameworks, config files and complexity"
  | plan => "Generate and validate a linter configuration"
  | run => "Execute the plan in a container and report results"

end CommandName

/-- A value that an option may have, with what it means if that is said. -/
structure Choice where
  /-- The value. -/
  name : String
  /-- What it means. -/
  meaning? : Option String
  deriving DecidableEq, Repr

namespace OutputFormat

/-- What a format is for. -/
def about : OutputFormat → String
  | json => "JSON - standard JSON output for machine parsing (default)"
  | toon => "TOON (Token-Oriented Object Notation) - token-efficient format"
  | text => "Human-readable text with visual formatting"

end OutputFormat

namespace Setting

/-- What a setting is for. -/
def about : Setting → String
  | format => "Output format (applies to all commands)"
  | verbose => "Show verbose output (info-level logs on stderr)"
  | engine => "Container runtime binary"
  | image => "Linting image"
  | gracePeriod => "Seconds a stopping container gets before it is killed"
  | maxDepth => "Maximum directory depth for the profiling walk"
  | path => "Repository root"
  | preferences => "Preferences file (TOML or JSON)"
  | speed => "Override the performance profile from preferences"
  | settingsOnly => "Print the KEY=value export instead of the configuration"
  | timeout => "Wall-clock limit overriding the planned one (e.g. 120, 120s, 5m)"
  | events => "Stream execution events to stderr as JSON lines"

/-- The word that stands for the value of a setting. -/
def valueName? : Setting → Option String
  | format => some "FORMAT"
  | engine => some "RUNTIME"
  | image => some "IMAGE"
  | gracePeriod => some "GRACE_PERIOD"
  | maxDepth => some "MAX_DEPTH"
  | path => some "PATH"
  | preferences => some "FILE"
  | speed => some "PROFILE"
  | timeout => some "DURATION"
  | _ => none

/-- The value of a setting that nobody makes. -/
def standard? : Setting → Option String
  | format => some OutputFormat.json.name
  | engine => some Arguments.standardEngine
  | image => some Arguments.standardImage
  | gracePeriod => some (toString Arguments.standardGracePeriod)
  | maxDepth => some (toString Arguments.standardDepth)
  | path => some Arguments.standardPath
  | _ => none

/-- The values of a setting, if there are only some. -/
def choices : Setting → List Choice
  | format => OutputFormat.all.map fun f => ⟨f.name, some f.about⟩
  | speed => PerformanceProfile.all.map fun p => ⟨p.name, none⟩
  | _ => []

/-- Is it said what the values of a setting mean? -/
def explainsChoices (s : Setting) : Bool := s.choices.any fun c => c.meaning?.isSome

end Setting

/-- An option as help shows it. -/
structure HelpEntry where
  letter? : Option Char
  /-- Its name, with the word for its value. -/
  usage : String
  /-- What it is for. -/
  about : String
  /-- Notes on its value. -/
  notes : List String
  /-- Values that are explained one by one. -/
  choices : List Choice
  deriving DecidableEq, Repr

namespace Help

/-- The name of the program. -/
def program : String := "lintscope"

/-- The version of the program. -/
def version : String := "0.3.2"

/-- What the program does. -/
def about : String := "Profiles a repository, plans a linter configuration and runs it in a container"

/-- A text between square brackets. -/
def bracketed (s : String) : String := "[" ++ s ++ "]"

/-- Blanks. -/
def blanks (n : Nat) : String := String.ofList (List.replicate n ' ')

/-- A text with blanks behind it up to a width. -/
def filled (width : Nat) (s : String) : String := s ++ blanks (width - s.length)

/-- Blanks in front of a paragraph of the long text. -/
def paragraph : String := blanks 10

/-- What is said about the value of a setting: its variable with the value that it has, the value that nobody has to
give, and the possible values unless the long text explains them. -/
def notes (environment : List (String × String)) (long : Bool) (s : Setting) : List String :=
  (s.environmentName?.map fun v => bracketed ("env: " ++ v ++ "=" ++ (environment.lookup v).getD "")).toList ++
  (s.standard?.map fun v => bracketed ("default: " ++ v)).toList ++
  (if s.choices.isEmpty || (long && s.explainsChoices) then []
   else [bracketed ("possible values: " ++ Text.joined ", " (s.choices.map (·.name)))])

/-- A setting as help shows it. -/
def entry (environment : List (String × String)) (long : Bool) (s : Setting) : HelpEntry where
  letter? := s.short?
  usage :=
    match s.long?, s.valueName? with
    | some name, some value => "--" ++ name ++ " <" ++ value ++ ">"
    | some name, none => "--" ++ name
    | none, some value => bracketed value
    | none, none => ""
  about := s.about
  notes := notes environment long s
  choices := if long && s.explainsChoices then s.choices else []

/-- The entry for help itself. -/
def helpEntry (long : Bool) : HelpEntry :=
  ⟨some 'h', "--help",
   if long then "Print help (see a summary with '-h')" else "Print help (see more with '--help')", [], []⟩

/-- The entry for the version. -/
def versionEntry : HelpEntry := ⟨some 'V', "--version", "Print version", [], []⟩

/-- The options among settings, each with its place among them and with its letter or name. -/
def placed (settings : List Setting) : List ((Nat × String) × Setting) :=
  let options := settings.filterMap fun s => s.long?.map fun name => (name, s)
  options.zipIdx.map fun o =>
    ((o.2, match o.1.2.short? with
           | some c => String.singleton c ++ "0"
           | none => o.1.1), o.1.2)

/-- Does one place come before another, or are they alike? -/
def isBefore (a b : (Nat × String) × Setting) : Bool :=
  a.1.1 < b.1.1 || (a.1.1 == b.1.1 && decide (a.1.2 ≤ b.1.2))

/-- The options at a place in the order in which they are shown. -/
def optionsAt (command : Option CommandName) : List Setting :=
  let own := match command with
    | some c => Setting.ofCommand c
    | none => []
  ((placed own ++ placed Setting.shared).mergeSort isBefore).map (·.2)

/-- The start of an option's line: the letter if there is one, and the name. -/
def head (e : HelpEntry) : String :=
  (match e.letter? with
   | some c => "  -" ++ String.singleton c ++ ", "
   | none => "      ") ++ e.usage

/-- The line for an option, with a column for what it is for. -/
def shortLine (width : Nat) (start : String) (e : HelpEntry) : String :=
  filled (width + 2) start ++ Text.joined " " (e.about :: e.notes) ++ "\n"

/-- The lines for entries, side by side with what they are for. -/
def shortLines (starts : List (String × HelpEntry)) : String :=
  let width := starts.foldl (fun n s => max n s.1.length) 0
  String.join (starts.map fun s => shortLine width s.1 s.2)

/-- The list of explained values in the long text. -/
def choiceLines (choices : List Choice) : String :=
  if choices.isEmpty then ""
  else
    let width := choices.foldl (fun n c => max n c.name.length) 0
    "\n\n" ++ paragraph ++ "Possible values:" ++ String.join (choices.map fun c =>
      "\n" ++ paragraph ++ "- " ++ (match c.meaning? with
        | some meaning => filled (width + 2) (c.name ++ ":") ++ meaning
        | none => c.name))

/-- The paragraph for an option. The line in front of its notes is not quite empty. -/
def longEntry (start : String) (e : HelpEntry) : String :=
  start ++ "\n" ++ paragraph ++ e.about ++ choiceLines e.choices ++
    (if e.notes.isEmpty then ""
     else "\n" ++ paragraph ++ String.join (e.notes.map fun n => "\n" ++ paragraph ++ n))

/-- The paragraphs for entries. -/
def longEntries (starts : List (String × HelpEntry)) : String :=
  Text.joined "\n\n" (starts.map fun s => longEntry s.1 s.2) ++ "\n"

/-- Entries in the short or in the long layout. -/
def entries (long : Bool) (starts : List (String × HelpEntry)) : String :=
  if long then longEntries starts else shortLines starts

/-- The commands with what they do. -/
def commandLines : String :=
  let width := 9
  String.join (CommandName.all.map fun c =>
    "  " ++ filled width c.name ++ c.about ++
      (match c.shortName? with
       | some short => " " ++ bracketed ("alias: " ++ short)
       | none => "") ++ "\n") ++
  "  " ++ filled width "help" ++ "Print this message or the help of the given subcommand(s)\n"

/-- The part of a text between what the program or the command does and the options. -/
def opening (environment : List (String × String)) (long : Bool) : Option CommandName → String
  | none =>
    about ++ "\n\nUsage: " ++ program ++ " [OPTIONS] <COMMAND>\n\nCommands:\n" ++ commandLines
  | some c =>
    c.about ++ "\n\nUsage: " ++ program ++ " " ++ c.name ++ " [OPTIONS] [PATH]\n\nArguments:\n" ++
      (let e := entry environment long .path
       entries long [("  " ++ e.usage, e)])

/-- The help on the program or on a command. -/
def text (environment : List (String × String)) (command : Option CommandName) (long : Bool) : String :=
  let shown := (optionsAt command).map (entry environment long) ++ [helpEntry long, versionEntry]
  opening environment long command ++ "\nOptions:\n" ++ entries long (shown.map fun e => (head e, e))

/-- The line with the version of the program, as a command of it or on its own. -/
def versionLine : Option CommandName → String
  | none => program ++ " " ++ version ++ "\n"
  | some c => program ++ "-" ++ c.name ++ " " ++ version ++ "\n"

end Help

end LintPlan
