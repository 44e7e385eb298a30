import LintPlan.Command.Help
import LintPlan.Command.Running
/-!
# The program

From arguments and surroundings to what is printed, the exit status and the files afterwards.
-/

namespace LintPlan

namespace UsageFault

/-- An option as a message names it. -/
def optionText (s : Setting) : String := (Help.entry [] false s).usage

/-- Why the arguments are refused. -/
def message : UsageFault → String
  | help .. => ""
  | version _ => ""
  | nothingGiven => ""
  | noCommand => "'" ++ Help.program ++ "' requires a subcommand but one was not provided"
  | unknownCommand word => "unrecognized subcommand '" ++ word ++ "'"
  | unknownArgument word => "unexpected argument '" ++ word ++ "' found"
  | invalidValue s => "a value is required for '" ++ optionText s ++ "'"
  | rejectedValue s value => "invalid value '" ++ value ++ "' for '" ++ optionText s ++ "'"
  | surplusValue word => "unexpected value for '" ++ word ++ "' found"
  | repeated s => "the argument '" ++ optionText s ++ "' cannot be used multiple times"
  | overflow _ => ""

end UsageFault

/-- What the program has to say in the end. -/
inductive Reply where
  /-- The result of a command; for a run, whether there are issues. -/
  | result (text : String) (issues : Bool)
  /-- A command failed. -/
  | failure (f : Failure)
  /-- The arguments ask for no command. -/
  | usage (fault : UsageFault)
  /-- A number overflowed, which brings the program down. -/
  | crash

namespace Reply

/-- The exit status. -/
def exitStatus : Reply → Nat
  | result _ issues => if issues then 1 else 0
  | failure f => f.exitStatus
  | usage (.help ..) => 0
  | usage (.version _) => 0
  | usage _ => 2
  | crash => 101

/-- What goes to standard output. -/
def stdout (environment : List (String × String)) : Reply → String
  | result text _ => text
  | usage (.help command long) => Help.text environment command long
  | usage (.version command) => Help.versionLine command
  | _ => ""

/-- What goes to standard error, after any events. What is said about a crash is not the program's. -/
def stderr (environment : List (String × String)) : Reply → String
  | result .. => ""
  | failure f => "Error: " ++ f.message ++ "\n"
  | usage (.help ..) => ""
  | usage (.version _) => ""
  | usage .nothingGiven => Help.text environment none false
  | usage fault => "error: " ++ fault.message ++ "\n"
  | crash => ""

end Reply

/-- What the program starts with. -/
structure World where
  environment : List (String × String)
  files : FileTree
  here : Location
  /-- How the container engines behave, by their names. -/
  engines : String → EngineBehaviour
  /-- What an execution would be stamped with. -/
  stamp : Stamp

/-- What the program ends with. -/
structure ProgramOutcome where
  /-- What it has to say. -/
  reply : Reply
  /-- The events that were shown. -/
  events : List ExecutionEvent
  /-- What was done to containers. -/
  acts : List ContainerAct
  files : FileTree

namespace World

/-- The directory for settings of programs: where the environment says, as long as that is an absolute path, else below
the home directory. -/
def configDirectory (w : World) : Option String :=
  match w.environment.lookup "XDG_CONFIG_HOME" with
  | some dir => if Path.isAbsolute dir then some dir else home.map fun h => Path.append h ".config"
  | none => home.map fun h => Path.append h ".config"
where
  /-- The home directory. -/
  home : Option String := (w.environment.lookup "HOME").filter (· ≠ "")

/-- What commands see. -/
def surroundings (w : World) : Surroundings := ⟨w.files, w.here, w.configDirectory⟩

/-- An outcome without a run. -/
def saying (w : World) (reply : Reply) : ProgramOutcome := ⟨reply, [], [], w.files⟩

/-- The reply to a result that there may not be. -/
def replyOf (result : Except Failure String) : Reply :=
  match result with
  | .ok text => .result text false
  | .error f => .failure f

/-- Runs a command. -/
def perform (w : World) (i : Invocation) : ProgramOutcome :=
  match i.command with
  | .profile path =>
    w.saying (replyOf ((w.surroundings.profile i.maxDepth path).map fun p => p.output path i.verbose i.format))
  | .plan path preferences speed settingsOnly =>
    w.saying (replyOf ((Draft.make w.surroundings i.maxDepth path preferences speed).map fun d =>
      d.output path settingsOnly i.format))
  | .run path timeout speed preferences events =>
    let o : RunOptions := ⟨path, timeout, speed, preferences, events, i.maxDepth, i.engine, i.image⟩
    let report := o.run w.surroundings (w.engines i.engine) w.stamp
    let reply := match report.results with
      | some (.ok r) => Reply.result (r.output i.verbose i.format) r.hasIssues
      | some (.error f) => .failure f
      | none => .crash
    ⟨reply, report.events, report.acts, report.files⟩

/-- Runs the program with arguments. -/
def run (w : World) (args : List String) : ProgramOutcome :=
  match Arguments.read w.environment args with
  | .ok i => w.perform i
  | .error (.overflow _) => w.saying .crash
  | .error fault => w.saying (.usage fault)

end World

namespace ProgramOutcome

/-- The lines for the events that were shown. -/
def eventLines (o : ProgramOutcome) (time : String) : String :=
  String.join (o.events.map fun e => (e.toJson (some time)).compact ++ "\n")

/-- What goes to standard error. -/
def stderr (o : ProgramOutcome) (w : World) : String := o.eventLines w.stamp.time ++ o.reply.stderr w.environment

/-- What goes to standard output. -/
def stdout (o : ProgramOutcome) (w : World) : String := o.reply.stdout w.environment

end ProgramOutcome

end LintPlan
