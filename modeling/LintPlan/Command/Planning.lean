import LintPlan.Command.Output
import LintPlan.Display.Plan
import LintPlan.Display.Profile
import LintPlan.Document.Profile
import LintPlan.Planning.Plan
import LintPlan.PreferencesFile
import LintPlan.Repository.Analysis
/-!
# Profiling and planning at the command line

What the commands that only read a repository write: its profile, or the plan that follows from the profile and the
preferences. The profile comes first, so that a repository that cannot be looked at is reported before preferences that
cannot be used.
-/

namespace LintPlan

/-- What commands see of the machine. -/
structure Surroundings where
  files : FileTree
  /-- The working directory. -/
  here : Location
  /-- The directory for settings of programs, if there is one. -/
  configDirectory : Option String
  deriving DecidableEq, Repr

namespace Surroundings

/-- The file with preferences that nobody named. -/
def preferencesPath? (s : Surroundings) : Option String :=
  s.configDirectory.map fun dir => Path.append (Path.append dir "lintscope") "preferences.toml"

/-- The preferences: of the named file, else of the usual file if it is there, else the standard ones. -/
def loadPreferences (s : Surroundings) (named : Option String) : Except Failure Preferences :=
  match named with
  | some path => Preferences.read s.files s.here path
  | none =>
    match s.preferencesPath? with
    | some path =>
      if s.files.isFile s.here path then Preferences.read s.files s.here path else .ok .standard
    | none => .ok .standard

/-- The profile of the repository at a path. -/
def profile (s : Surroundings) (depth : Nat) (path : String) : Except Failure Profile :=
  (Profile.analyze s.files s.here (.ofScan depth) path).mapError .analysis

end Surroundings

/-- A profile, the preferences, and the plan that follows from them. -/
structure Draft where
  profile : Profile
  /-- The preferences, with the changes that the command asks for. -/
  preferences : Preferences
  /-- The plan. -/
  configuration : Configuration
  deriving DecidableEq, Repr

namespace Draft

/-- Looks at the repository at a path and makes a plan for it. -/
def make (s : Surroundings) (depth : Nat) (path : String) (preferencesFile : Option String)
    (speed : Option PerformanceProfile) : Except Failure Draft := do
  let profile ← s.profile depth path
  let loaded ← s.loadPreferences preferencesFile
  let preferences := match speed with
    | some p => { loaded with performanceProfile := p }
    | none => loaded
  match Planning.plan profile preferences with
  | .ok configuration => .ok ⟨profile, preferences, configuration⟩
  | .error issues => .error (.invalidConfiguration (issues.map ConfigIssue.reported))

/-- The document of a plan. -/
def toJson (d : Draft) (path : String) : Json :=
  .obj [("_type", .str "plan"), ("path", .str path),
        ("performance_profile", .str d.preferences.performanceProfile.name),
        ("profile", .obj
          [("primary", Json.languages d.profile.primary),
           ("secondary", Json.languages d.profile.secondary),
           ("frameworks", Json.texts (d.profile.frameworks.map (·.name))),
           ("complexity", .str d.profile.complexity.name),
           ("confidence", .float d.profile.confidence)]),
        ("configuration", d.configuration.toJson),
        ("validation", d.configuration.validate.toJson)]

/-- What the plan command writes: the settings of the plan, or the plan in a format. -/
def output (d : Draft) (path : String) (settingsOnly : Bool) (format : OutputFormat) : String :=
  if settingsOnly then PlanText.render d.configuration
  else
    format.render (d.toJson path) (d.configuration.display path d.profile d.configuration.validate)

end Draft

/-- What the profile command writes. -/
def Profile.output (p : Profile) (path : String) (long : Bool) (format : OutputFormat) : String :=
  format.render p.toJson (p.display path long)

end LintPlan
