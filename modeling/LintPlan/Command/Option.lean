import LintPlan.Command.Output
import LintPlan.Duration
import LintPlan.Preferences
/-!
# Options of the command line

The options and commands that arguments may name, and which values an option takes.
-/

namespace LintPlan

/-- The commands. -/
inductive CommandName where
  | profile | plan | run
  deriving DecidableEq, Repr, Inhabited

namespace CommandName

/-- Every command. -/
def all : List CommandName := [profile, plan, run]

/-- The name of a command. -/
def name : CommandName → String
  | profile => "profile"
  | plan => "plan"
  | run => "run"

/-- The short name of a command, if it has one. -/
def shortName? : CommandName → Option String
  | profile => some "p"
  | plan => none
  | run => some "r"

/-- The command with a name or a short name. -/
def parse? (s : String) : Option CommandName :=
  all.find? fun c => c.name == s || c.shortName? == some s

end CommandName

/-- What arguments can set: options, and the path behind a command. -/
inductive Setting where
  | format | verbose | engine | image | gracePeriod | maxDepth | path | preferences | speed
  | settingsOnly | timeout | events
  deriving DecidableEq, Repr

/-- Why arguments are no invocation. -/
inductive UsageFault where
  /-- Help is asked for, in short or at length: on the whole program or on a command. -/
  | help (command : Option CommandName) (long : Bool)
  /-- The version is asked for. -/
  | version (command : Option CommandName)
  /-- There are no arguments at all. -/
  | nothingGiven
  /-- There is no command. -/
  | noCommand
  /-- There is no such command. -/
  | unknownCommand (word : String)
  /-- There is no such option, or no place for the argument. -/
  | unknownArgument (word : String)
  /-- An option has no value, or none of its values. -/
  | invalidValue (setting : Setting)
  /-- The value of an option cannot be read. -/
  | rejectedValue (setting : Setting) (value : String)
  /-- An option without values has one. -/
  | surplusValue (word : String)
  /-- An option is given twice. -/
  | repeated (setting : Setting)
  /-- Working out the value of an option overflows, which brings the program down. -/
  | overflow (setting : Setting)
  deriving DecidableEq, Repr

namespace Setting

/-- Settings that can be made before and after the command. -/
def shared : List Setting := [format, verbose, engine, image, gracePeriod, maxDepth]

/-- Settings of a command, besides those that are shared. -/
def ofCommand : CommandName → List Setting
  | .profile => [path]
  | .plan => [path, preferences, speed, settingsOnly]
  | .run => [path, timeout, speed, preferences, events]

/-- The settings that can be made at a place: before the command, or behind it. -/
def at_ (command : Option CommandName) : List Setting :=
  shared ++ (match command with
    | some c => ofCommand c
    | none => [])

/-- The name of the option for a setting; the path has none. -/
def long? : Setting → Option String
  | format => some "format"
  | verbose => some "verbose"
  | engine => some "runtime"
  | image => some "image"
  | gracePeriod => some "grace-period"
  | maxDepth => some "max-depth"
  | path => none
  | preferences => some "prefs"
  | speed => some "profile"
  | settingsOnly => some "env"
  | timeout => some "timeout"
  | events => some "events"

/-- The letter of the option for a setting. -/
def short? : Setting → Option Char
  | format => some 'f'
  | verbose => some 'v'
  | _ => none

/-- The environment variable for a setting. -/
def environmentName? : Setting → Option String
  | engine => some "LINTSCOPE_RUNTIME"
  | image => some "LINTSCOPE_IMAGE"
  | gracePeriod => some "LINTSCOPE_GRACE_PERIOD"
  | maxDepth => some "LINTSCOPE_MAX_DEPTH"
  | _ => none

/-- Is the option a switch, without a value? -/
def isSwitch (s : Setting) : Bool := s == verbose || s == settingsOnly || s == events

/-- The output format that a word means. -/
def readFormat (word : String) : Option OutputFormat :=
  (OutputFormat.ofName? word).orElse fun _ => if word == "pretty" then some .text else none

/-- The number of 64 bits that a word means. -/
def readWord64 (word : String) : Option Nat := Text.readNumeral Text.maxWord64 word.toList

/-- The number of seconds that a word means. -/
def readTimeout (word : String) : Option Nat := (Duration.parse word).toOption.join

/-- Why a setting does not take a value. -/
def refusal? (s : Setting) (value : String) : Option UsageFault :=
  match s with
  | format => if (readFormat value).isSome then none else some (.invalidValue s)
  | speed => if (PerformanceProfile.ofName? value).isSome then none else some (.invalidValue s)
  | path => if value == "" then some (.invalidValue s) else none
  | preferences => if value == "" then some (.invalidValue s) else none
  | gracePeriod => if (readWord64 value).isSome then none else some (.rejectedValue s value)
  | maxDepth => if (readWord64 value).isSome then none else some (.rejectedValue s value)
  | timeout =>
    match Duration.parse value with
    | .ok (some _) => none
    | .ok none => some (.overflow s)
    | .error _ => some (.rejectedValue s value)
  | _ => none

end Setting

end LintPlan
