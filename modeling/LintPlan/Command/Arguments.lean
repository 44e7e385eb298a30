import LintPlan.Command.Option
import LintPlan.FileSystem.Path
/-!
# Reading the command line

Arguments are read from left to right: options, then a command, then the options of the command and a path. An option is
looked at as a whole only when the next one starts, so that of two faults the earlier one need not be the one that is
reported: faults behind the command come before a missing value in front of it.
-/

namespace LintPlan

/-- What to do, with what only the command needs to know. -/
inductive Command where
  /-- Write the profile of a repository. -/
  | profile (path : String)
  /-- Write a plan for a repository. -/
  | plan (path : String) (preferences : Option String) (speed : Option PerformanceProfile)
      (settingsOnly : Bool)
  /-- Run the plan for a repository. -/
  | run (path : String) (timeout : Option Nat) (speed : Option PerformanceProfile)
      (preferences : Option String) (events : Bool)
  deriving DecidableEq, Repr

/-- What arguments ask for. -/
structure Invocation where
  command : Command
  format : OutputFormat
  /-- Is the long form of texts wanted? -/
  verbose : Bool
  engine : String
  image : String
  /-- Seconds that a container gets to end. -/
  gracePeriod : Nat
  maxDepth : Nat
  deriving DecidableEq, Repr

namespace Arguments

/-- The engine that nobody named. -/
def standardEngine : String := "docker"

/-- The image that nobody named. -/
def standardImage : String := "oxsecurity/megalinter:v8"

/-- Seconds that a container gets to end when nobody says how many. -/
def standardGracePeriod : Nat := 10

/-- The depth of the walk when nobody says how deep. -/
def standardDepth : Nat := 12

/-- The path that nobody named. -/
def standardPath : String := "."

/-- Settings with their values. -/
abbrev Given := List (Setting × String)

/-- A part of the arguments that has been read. -/
structure Progress where
  /-- Settings that are made. -/
  given : Given
  /-- A setting that waits to be looked at, with its value if that was read. -/
  waiting : Option (Setting × Option String)
  deriving DecidableEq, Repr

namespace Progress

/-- Nothing has been read. -/
def start : Progress := ⟨[], none⟩

/-- Does an option wait for its value? -/
def needsValue (p : Progress) : Bool :=
  match p.waiting with
  | some (_, none) => true
  | _ => false

/-- Is there a path already? -/
def hasPath (p : Progress) : Bool :=
  (p.given.map (·.1)).contains .path || (p.waiting.map (·.1)) == some .path

/-- Makes a setting. -/
def add (p : Progress) (s : Setting) (value : String) : Except UsageFault Progress :=
  if (p.given.map (·.1)).contains s then .error (.repeated s)
  else match s.refusal? value with
    | some fault => .error fault
    | none => .ok { p with given := p.given ++ [(s, value)] }

/-- Looks at the setting that waits. -/
def settle (p : Progress) : Except UsageFault Progress :=
  match p.waiting with
  | none => .ok p
  | some (s, none) => .error (.invalidValue s)
  | some (s, some value) => add { p with waiting := none } s value

/-- Starts a setting after the one that waits. -/
def await (p : Progress) (s : Setting) (value : Option String) : Except UsageFault Progress :=
  p.settle.map fun p => { p with waiting := some (s, value) }

/-- Makes a setting at once, after the one that waits. -/
def make (p : Progress) (s : Setting) (value : String) : Except UsageFault Progress :=
  match p.settle with
  | .error fault => .error fault
  | .ok p => p.add s value

/-- Reports a request for help or for the version, unless the setting that waits is at fault. -/
def stopWith (p : Progress) (fault : UsageFault) : Except UsageFault Progress :=
  match p.settle with
  | .error other => .error other
  | .ok _ => .error fault

end Progress

/-- The setting at a place with an option of this name. -/
def ofLong? (place : Option CommandName) (name : String) : Option Setting :=
  (Setting.at_ place).find? fun s => s.long? == some name

/-- The setting at a place with an option of this letter. -/
def ofShort? (place : Option CommandName) (c : Char) : Option Setting :=
  (Setting.at_ place).find? fun s => s.short? == some c

/-- Reads an option by its name; the value may follow an equals sign. -/
def readLong (place : Option CommandName) (p : Progress) (word : String) (body : List Char) :
    Except UsageFault Progress :=
  let (name, value) := match Text.cut '=' body with
    | some (name, value) => (String.ofList name, some (String.ofList value))
    | none => (String.ofList body, none)
  match ofLong? place name, value with
  | some s, none => if s.isSwitch then p.make s "true" else p.await s none
  | some s, some value => if s.isSwitch then .error (.surplusValue word) else p.make s value
  | none, value =>
    if name == "help" then
      if value.isSome then .error (.surplusValue word) else p.stopWith (.help place true)
    else if name == "version" then
      if value.isSome then .error (.surplusValue word) else p.stopWith (.version place)
    else .error (.unknownArgument word)

/-- Reads options by their letters; the value of the last one may follow it, with an equals sign or without. -/
def readShort (place : Option CommandName) (p : Progress) (word : String) :
    List Char → Except UsageFault Progress
  | [] => .ok p
  | c :: rest =>
    match ofShort? place c with
    | some s =>
      if s.isSwitch then
        match p.make s "true" with
        | .error fault => .error fault
        | .ok p => readShort place p word rest
      else match rest with
        | [] => p.await s none
        | '=' :: value => p.make s (String.ofList value)
        | value => p.make s (String.ofList value)
    | none =>
      if c == 'h' then p.stopWith (.help place false)
      else if c == 'V' then p.stopWith (.version place)
      else .error (.unknownArgument word)

/-- Reads an argument that is no option: the path behind a command. -/
def readPath (place : Option CommandName) (trailing : Bool) (p : Progress) (word : String) :
    Except UsageFault Progress :=
  match place with
  | some _ => if p.hasPath then .error (.unknownArgument word) else p.await .path (some word)
  | none =>
    if trailing && ((CommandName.parse? word).isSome || word == "help") then
      .error (.unknownArgument word)
    else .error (.unknownCommand word)

/-- Reads one argument in front of a double dash. -/
def readOne (place : Option CommandName) (p : Progress) (word : String) : Except UsageFault Progress :=
  match word.toList with
  | '-' :: '-' :: body => readLong place p word body
  | '-' :: c :: body => readShort place p word (c :: body)
  | _ =>
    match p.waiting with
    | some (s, none) => .ok { p with waiting := some (s, some word) }
    | _ => readPath place false p word

/-- Reads arguments behind a double dash. -/
def readTrailing (place : Option CommandName) : Progress → List String → Except UsageFault Progress
  | p, [] => .ok p
  | p, word :: rest =>
    match readPath place true p word with
    | .error fault => .error fault
    | .ok p => readTrailing place p rest

/-- Reads the arguments behind a command. -/
def readBehind (command : CommandName) : Progress → List String → Except UsageFault Progress
  | p, [] => .ok p
  | p, word :: rest =>
    if word == "--" then readTrailing (some command) p rest
    else match readOne (some command) p word with
      | .error fault => .error fault
      | .ok p => readBehind command p rest

/-- What the words behind `help` ask for. -/
def readHelp : List String → UsageFault
  | [] => .help none true
  | word :: rest =>
    match CommandName.parse? word, rest with
    | some c, [] => .help (some c) true
    | some _, other :: _ => .unknownCommand other
    | none, [] => if word == "help" then .help none true else .unknownCommand word
    | none, other :: _ => .unknownCommand (if word == "help" then other else word)

/-- The settings that arguments make in front of the command, and the command with the arguments behind it. -/
def readFront : Progress → List String → Except UsageFault (Progress × Option (CommandName × List String))
  | p, [] => .ok (p, none)
  | p, word :: rest =>
    if !p.needsValue && word == "help" then .error (readHelp rest)
    else match (if p.needsValue then none else CommandName.parse? word) with
      | some command => .ok (p, some (command, rest))
      | none =>
        if word == "--" then (readTrailing none p rest).map fun p => (p, none)
        else match readOne none p word with
          | .error fault => .error fault
          | .ok p => readFront p rest

/-- Settings that environment variables make at a place where arguments did not. -/
def fromEnvironment (environment : List (String × String)) (given : Given) :
    List Setting → Except UsageFault Given
  | [] => .ok []
  | s :: rest =>
    let value? := if (given.map (·.1)).contains s then none else s.environmentName?.bind fun v => environment.lookup v
    match value? with
    | none => fromEnvironment environment given rest
    | some value =>
      match s.refusal? value with
      | some fault => .error fault
      | none => (fromEnvironment environment given rest).map ((s, value) :: ·)

/-- Settings by where they are made: behind the command, in front of it, in the environment. -/
structure Sources where
  /-- Behind the command. -/
  behind : Given
  /-- In front of the command. -/
  front : Given
  /-- In the environment. -/
  environment : Given

namespace Sources

/-- The value of a setting. -/
def value? (x : Sources) (s : Setting) : Option String :=
  (x.behind ++ x.front ++ x.environment).lookup s

/-- Is a switch on? -/
def isOn (x : Sources) (s : Setting) : Bool := (x.value? s).isSome

/-- The speed that is asked for. -/
def speed? (x : Sources) : Option PerformanceProfile := (x.value? .speed).bind PerformanceProfile.ofName?

/-- What to do. -/
def command (x : Sources) (name : CommandName) : Command :=
  let path := (x.value? .path).getD standardPath
  match name with
  | .profile => .profile path
  | .plan => .plan path (x.value? .preferences) x.speed? (x.isOn .settingsOnly)
  | .run => .run path ((x.value? .timeout).bind Setting.readTimeout) x.speed?
      (x.value? .preferences) (x.isOn .events)

/-- What the arguments ask for. -/
def invocation (x : Sources) (name : CommandName) : Invocation where
  command := x.command name
  format := ((x.value? .format).bind Setting.readFormat).getD .json
  verbose := x.isOn .verbose
  engine := (x.value? .engine).getD standardEngine
  image := (x.value? .image).getD standardImage
  gracePeriod := ((x.value? .gracePeriod).bind Setting.readWord64).getD standardGracePeriod
  maxDepth := ((x.value? .maxDepth).bind Setting.readWord64).getD standardDepth

end Sources

/-- Settles what waits and adds what the environment says. -/
def finish (environment : List (String × String)) (p : Progress) : Except UsageFault (Given × Given) :=
  match p.settle with
  | .error fault => .error fault
  | .ok p => (fromEnvironment environment p.given Setting.shared).map fun e => (p.given, e)

/-- Reads the arguments of the program. -/
def read (environment : List (String × String)) (args : List String) : Except UsageFault Invocation := do
  let (front, command?) ← readFront .start args
  match command? with
  | some (name, rest) => do
    let behind ← readBehind name .start rest
    let (behind, _) ← finish environment behind
    let (front, outside) ← finish environment front
    return Sources.invocation ⟨behind, front, outside⟩ name
  | none => do
    let (front, outside) ← finish environment front
    if front.isEmpty && outside.isEmpty then throw .nothingGiven else throw .noCommand

end Arguments

end LintPlan
