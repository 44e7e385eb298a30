import LintPlan.FileSystem.Lookup
import LintPlan.Json.Reader
import LintPlan.Repository.Profile
import LintPlan.Text.Folding
import LintPlan.Toml.MarkedDate
import LintPlan.Toml.Reader
/-!
# Manifests

Frameworks come from the dependencies that the manifests at the root of a repository declare, build tools from files
that are there. A manifest that cannot be used costs its frameworks and leaves a warning.
-/

namespace LintPlan

/-! ## Formats -/

/-- How a manifest declares dependencies. -/
inductive ManifestFormat where
  /-- As keys of the dependency objects of a package. -/
  | package
  /-- As keys of the requirement objects of a composer document. -/
  | composer
  /-- In the project tables of Python, by texts or by keys. -/
  | pyproject
  /-- As keys of the dependency tables of a crate or a workspace. -/
  | cargo
  /-- On lines of their own. -/
  | lines
  deriving DecidableEq, Repr

/-- Why a manifest cannot be used. -/
inductive ManifestFault where
  /-- The system refuses to read it. -/
  | unreadable (fault : OsFault)
  /-- It is no JSON. -/
  | badJson (fault : Json.Fault)
  /-- It is no TOML. -/
  | badToml (fault : Toml.Fault)
  deriving DecidableEq, Repr

/-- The wording of a fault. -/
def ManifestFault.message : ManifestFault → String
  | unreadable fault => "unreadable (" ++ fault.message ++ ")"
  | badJson fault => "invalid JSON (" ++ fault.message ++ ")"
  | badToml fault => "invalid TOML (" ++ fault.message ++ ")"

namespace Manifest

/-- The keys of the value under a key, if it is an object. -/
def keysUnder (j : Json) (key : String) : List String :=
  match j.get? key with
  | some (.obj entries) => entries.map (·.1)
  | _ => []

/-- The texts of a list. -/
def textsOf : Json → List String
  | .arr items => items.filterMap fun
    | .str s => some s
    | _ => none
  | _ => []

/-- The texts of the lists in an object. -/
def textsInside : Json → List String
  | .obj entries => entries.flatMap fun e => textsOf e.2
  | _ => []

/-- The value under a key, or nothing that has parts. -/
def under (j : Json) (key : String) : Json := (j.get? key).getD .null

/-- Dependencies that a Python project declares. -/
def pyprojectDependencies (j : Json) : List String :=
  let project := under j "project"
  let poetry := under (under j "tool") "poetry"
  textsOf (under project "dependencies") ++ textsInside (under project "optional-dependencies") ++
    ["dependencies", "dev-dependencies"].flatMap (keysUnder poetry)

/-- Dependencies that a crate or a workspace declares. -/
def cargoDependencies (j : Json) : List String :=
  ["dependencies", "dev-dependencies", "build-dependencies"].flatMap (keysUnder j) ++
    keysUnder (under j "workspace") "dependencies"

/-- Lines without blanks around them, except empty ones and comments. -/
def dependencyLines (cs : List Char) : List String :=
  (((Text.lines cs).map Text.trim).filter fun line =>
    !line.isEmpty && line.head? != some '#' && (Text.after ['/', '/'] line).isNone).map String.ofList

/-- The dependencies that the text of a manifest declares. -/
def dependencies (format : ManifestFormat) (cs : List Char) : Except ManifestFault (List String) :=
  match format with
  | .package =>
    match Json.read cs with
    | .ok j => .ok (["dependencies", "devDependencies", "peerDependencies"].flatMap (keysUnder j))
    | .error fault => .error (.badJson fault)
  | .composer =>
    match Json.read cs with
    | .ok j => .ok (["require", "require-dev"].flatMap (keysUnder j))
    | .error fault => .error (.badJson fault)
  | .pyproject =>
    match Toml.resolved (Toml.read cs) with
    | .ok j => .ok (pyprojectDependencies j)
    | .error fault => .error (.badToml fault)
  | .cargo =>
    match Toml.resolved (Toml.read cs) with
    | .ok j => .ok (cargoDependencies j)
    | .error fault => .error (.badToml fault)
  | .lines => .ok (dependencyLines cs)

end Manifest

/-! ## What is known -/

/-- A manifest. -/
structure Manifest where
  file : String
  /-- How it declares dependencies. -/
  format : ManifestFormat
  deriving DecidableEq, Repr

/-- Manifests of some languages, with the frameworks that they may show. -/
structure ManifestGroup where
  /-- Is it about a language? -/
  concerns : Language → Bool
  manifests : List Manifest
  /-- Parts of dependencies, with the framework that each part shows. -/
  signatures : List (String × String)

/-- The groups that are known. -/
def ManifestGroup.known : List ManifestGroup :=
  [⟨Language.isJavaScriptFamily,
    [⟨"package.json", .package⟩],
    [("react", "react"), ("vue", "vue"), ("@angular/core", "angular"), ("svelte", "svelte"),
     ("next", "nextjs"), ("nuxt", "nuxt"), ("express", "express"), ("@nestjs/core", "nestjs"),
     ("gatsby", "gatsby"), ("electron", "electron"), ("jest", "jest")]⟩,
   ⟨(· == .python),
    [⟨"requirements.txt", .lines⟩, ⟨"pyproject.toml", .pyproject⟩, ⟨"Pipfile", .lines⟩],
    [("django", "django"), ("flask", "flask"), ("fastapi", "fastapi"), ("pyramid", "pyramid"),
     ("tornado", "tornado"), ("pytest", "pytest")]⟩,
   ⟨Language.isJvm,
    [⟨"pom.xml", .lines⟩, ⟨"build.gradle", .lines⟩, ⟨"build.gradle.kts", .lines⟩],
    [("spring-boot", "spring"), ("springframework", "spring"), ("quarkus", "quarkus"),
     ("micronaut", "micronaut"), ("junit", "junit")]⟩,
   ⟨(· == .go),
    [⟨"go.mod", .lines⟩],
    [("github.com/gin-gonic/gin", "gin"), ("github.com/labstack/echo", "echo"),
     ("github.com/gofiber/fiber", "fiber"), ("github.com/gorilla/mux", "gorilla")]⟩,
   ⟨(· == .rust),
    [⟨"Cargo.toml", .cargo⟩],
    [("actix-web", "actix-web"), ("rocket", "rocket"), ("axum", "axum"), ("warp", "warp"),
     ("tauri", "tauri")]⟩,
   ⟨(· == .ruby),
    [⟨"Gemfile", .lines⟩],
    [("rails", "rails"), ("sinatra", "sinatra"), ("rspec", "rspec")]⟩,
   ⟨(· == .php),
    [⟨"composer.json", .composer⟩],
    [("laravel/framework", "laravel"), ("symfony/", "symfony")]⟩]

/-- Files that show build tools, with the tool of each. -/
def BuildTool.markers : List (String × String) :=
  [("package-lock.json", "npm"), ("yarn.lock", "yarn"), ("pnpm-lock.yaml", "pnpm"),
   ("bun.lockb", "bun"), ("webpack.config.js", "webpack"), ("vite.config.js", "vite"),
   ("vite.config.ts", "vite"), ("rollup.config.js", "rollup"), ("turbo.json", "turborepo"),
   ("nx.json", "nx"), ("pom.xml", "maven"), ("build.gradle", "gradle"),
   ("build.gradle.kts", "gradle"), ("Cargo.lock", "cargo"), ("Cargo.toml", "cargo"),
   ("go.sum", "go-modules"), ("go.mod", "go-modules"), ("poetry.lock", "poetry"),
   ("Pipfile.lock", "pipenv"), ("setup.py", "setuptools"), ("Gemfile.lock", "bundler"),
   ("composer.lock", "composer"), ("Makefile", "make"), ("CMakeLists.txt", "cmake"),
   ("WORKSPACE", "bazel"), ("BUILD.bazel", "bazel")]

/-! ## Detection -/

/-- Frameworks that were found, and warnings about manifests. -/
structure FrameworkReport where
  frameworks : List Framework
  /-- The manifests that could not be used, with the reasons. -/
  unusable : List (String × ManifestFault)
  deriving DecidableEq, Repr

namespace FrameworkReport

/-- The wording of the warnings. -/
def warnings (r : FrameworkReport) : List String :=
  r.unusable.map fun e => e.1 ++ ": " ++ e.2.message

/-- Adds a framework unless one of this name is there. -/
def add (r : FrameworkReport) (f : Framework) : FrameworkReport :=
  if r.frameworks.any (·.name == f.name) then r else { r with frameworks := r.frameworks ++ [f] }

/-- Adds the frameworks that dependencies show. -/
def addShown (l : Language) (file : String) (signatures : List (String × String))
    (dependencies : List String) (r : FrameworkReport) : FrameworkReport :=
  signatures.foldl (fun r s =>
    if dependencies.any (Text.occurs s.1) then r.add ⟨s.2, l, file⟩ else r) r

end FrameworkReport

namespace Manifest

/-- The dependencies of the manifest at the root of a repository, in lower case; there is nothing without the
manifest. -/
def read? (t : FileTree) (root : Location) (m : Manifest) : Option (Except ManifestFault (List String)) :=
  if t.isFile root m.file then
    some (match t.readText root m.file with
      | .error fault => .error (.unreadable fault)
      | .ok text =>
        match dependencies m.format text.toList with
        | .error fault => .error fault
        | .ok names => .ok (names.map fun n => String.ofList (Text.lower n.toList)))
  else none

/-- Takes a manifest into account for a language. -/
def consider (t : FileTree) (root : Location) (l : Language) (signatures : List (String × String))
    (r : FrameworkReport) (m : Manifest) : FrameworkReport :=
  match m.read? t root with
  | none => r
  | some (.error fault) => { r with unusable := r.unusable ++ [(m.file, fault)] }
  | some (.ok dependencies) => r.addShown l m.file signatures dependencies

end Manifest

/-- The frameworks that the manifests at a root show for languages, one language after the other. -/
def Framework.detect (t : FileTree) (root : Location) (ls : List Language) : FrameworkReport :=
  ls.foldl (fun r l =>
    (ManifestGroup.known.filter (·.concerns l)).foldl (fun r g =>
      g.manifests.foldl (Manifest.consider t root l g.signatures) r) r) ⟨[], []⟩

/-- Adds a build tool unless one of this name is there. -/
def BuildTool.add (tools : List BuildTool) (tool : BuildTool) : List BuildTool :=
  if tools.any (·.name == tool.name) then tools else tools ++ [tool]

/-- The build tools that files at a root show, each with the first such file. -/
def BuildTool.detect (t : FileTree) (root : Location) : List BuildTool :=
  ((markers.filter fun m => t.isFile root m.1).map fun m => ⟨m.2, m.1⟩).foldl add []

end LintPlan
