import LintPlan.PlanText
import LintPlan.Json.Decode
/-!
# Runs of containers

What a container engine is asked to run, and the arguments that say so: the repository is mounted at a
fixed place, memory and processors are bounded, and the settings of the plan come as environment
variables.
-/

namespace LintPlan

/-- One run of a container. -/
structure RunSpec where
  image : String
  containerName : String
  repository : String
  /-- The memory limit as engines read it. -/
  memory : Option String
  cpus : Nat
  /-- Environment variables, sorted by name. -/
  environment : List (String × String)
  deriving DecidableEq, Repr

namespace RunSpec

/-- The directory of the repository in the container. -/
def workspace : String := "/tmp/lint"

/-- The variable that names this directory. -/
def workspaceVariable : String := "DEFAULT_WORKSPACE"

/-- The environment for a configuration. -/
def environmentFor (c : Configuration) : List (String × String) :=
  Json.insertSorted Json.textBefore workspaceVariable workspace (PlanText.settings c)

/-- The run that a configuration asks for. A limit that is no size is left out, and there is at least one
processor. -/
def ofConfiguration (c : Configuration) (repository image containerName : String) : RunSpec where
  image := image
  containerName := containerName
  repository := repository
  memory := MemorySize.engineLimit? c.performance.limits.maxMemory
  cpus := max c.performance.limits.maxCpus 1
  environment := environmentFor c

/-- The arguments for a container engine. -/
def arguments (r : RunSpec) : List String :=
  ["run", "--rm", "--name", r.containerName, "-v", r.repository ++ ":" ++ workspace ++ ":rw",
   "-w", workspace] ++
  (match r.memory with
   | some limit => ["--memory", limit]
   | none => []) ++
  ["--cpus", toString r.cpus] ++
  (r.environment.flatMap fun e => ["-e", e.1 ++ "=" ++ e.2]) ++ [r.image]

/-- The arguments for stopping a container that gets some time to end. -/
def stopArguments (containerName : String) (graceSeconds : Nat) : List String :=
  ["stop", "--time", toString graceSeconds, containerName]

end RunSpec

end LintPlan
