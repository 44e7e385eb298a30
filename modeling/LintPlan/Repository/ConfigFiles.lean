import LintPlan.Glob
import LintPlan.Json.Decode
import LintPlan.Repository.Profile
/-!
# Configuration files of tools

Which files of a repository configure a tool. For each tool the file nearest to the root counts, and of several
such files the first.
-/

namespace LintPlan

/-- A pattern for the files that configure a tool. -/
structure ConfigPattern where
  tool : String
  /-- The pattern: of paths from the root if it has a slash, else of file names. -/
  pattern : String
  /-- What such a file configures. -/
  kind : ConfigKind
  importance : Importance
  deriving DecidableEq, Repr

/-- A file of a repository, as far as its place goes. -/
structure PlacedFile where
  /-- The path from the root. -/
  path : String
  /-- The number of names on the path. -/
  depth : Nat
  deriving DecidableEq, Repr

namespace ConfigPattern

/-- The patterns that are known. -/
def known : List ConfigPattern :=
  [⟨"eslint", ".eslintrc*", .linter, .high⟩,
   ⟨"eslint", "eslint.config.*", .linter, .high⟩,
   ⟨"stylelint", ".stylelintrc*", .linter, .medium⟩,
   ⟨"pylint", ".pylintrc", .linter, .high⟩,
   ⟨"flake8", ".flake8", .linter, .high⟩,
   ⟨"ruff", "ruff.toml", .linter, .high⟩,
   ⟨"ruff", ".ruff.toml", .linter, .high⟩,
   ⟨"golangci", ".golangci.y*ml", .linter, .high⟩,
   ⟨"clippy", "clippy.toml", .linter, .medium⟩,
   ⟨"rubocop", ".rubocop.yml", .linter, .high⟩,
   ⟨"checkstyle", "checkstyle*.xml", .linter, .high⟩,
   ⟨"markdownlint", ".markdownlint*", .linter, .low⟩,
   ⟨"yamllint", ".yamllint*", .linter, .low⟩,
   ⟨"hadolint", ".hadolint.y*ml", .linter, .medium⟩,
   ⟨"megalinter", ".mega-linter.y*ml", .linter, .high⟩,
   ⟨"prettier", ".prettierrc*", .formatter, .high⟩,
   ⟨"prettier", "prettier.config.*", .formatter, .high⟩,
   ⟨"rustfmt", "rustfmt.toml", .formatter, .medium⟩,
   ⟨"rustfmt", ".rustfmt.toml", .formatter, .medium⟩,
   ⟨"pyproject", "pyproject.toml", .build, .medium⟩,
   ⟨"editorconfig", ".editorconfig", .editor, .low⟩,
   ⟨"typescript", "tsconfig*.json", .typeChecker, .high⟩,
   ⟨"mypy", "mypy.ini", .typeChecker, .medium⟩,
   ⟨"babel", "babel.config.*", .build, .low⟩,
   ⟨"babel", ".babelrc*", .build, .low⟩,
   ⟨"webpack", "webpack.config.*", .build, .low⟩,
   ⟨"setup_cfg", "setup.cfg", .build, .low⟩,
   ⟨"jest", "jest.config.*", .testing, .low⟩,
   ⟨"pytest", "pytest.ini", .testing, .low⟩,
   ⟨"github_actions", ".github/workflows/*.y*ml", .ci, .medium⟩,
   ⟨"gitlab_ci", ".gitlab-ci.yml", .ci, .medium⟩,
   ⟨"circleci", ".circleci/config.yml", .ci, .medium⟩,
   ⟨"jenkins", "Jenkinsfile", .ci, .medium⟩,
   ⟨"pre_commit", ".pre-commit-config.yaml", .ci, .medium⟩,
   ⟨"gitleaks", ".gitleaks.toml", .security, .high⟩,
   ⟨"secretlint", ".secretlintrc*", .security, .high⟩,
   ⟨"sonar", "sonar-project.properties", .security, .medium⟩,
   ⟨"docker", "Dockerfile", .container, .medium⟩,
   ⟨"docker_compose", "docker-compose.y*ml", .container, .low⟩]

/-- Does the pattern take a path from the root? No part of a pattern stands for a slash. -/
def takes (p : ConfigPattern) (path : String) : Bool :=
  let subject :=
    if p.pattern.toList.contains '/' then path
    else String.ofList (((Text.splitOn '/' path.toList).getLast?).getD [])
  Glob.isMatch true p.pattern subject

end ConfigPattern

namespace ConfigFile

/-- A path with slashes for backslashes. -/
def slashed (path : String) : String :=
  String.ofList (path.toList.map fun c => if c = '\\' then '/' else c)

/-- A configuration file with its depth. -/
abbrev Candidate := Nat × ConfigFile

/-- The better of a file that was found before and another one: the other one has to be nearer to the
root. -/
def better (found : Option Candidate) (other : Candidate) : Candidate :=
  match found with
  | none => other
  | some old => if other.1 < old.1 then other else old

/-- Takes a file into account for one pattern. -/
def consider (file : PlacedFile) (found : List (String × Candidate)) (p : ConfigPattern) :
    List (String × Candidate) :=
  let path := slashed file.path
  if p.takes path then
    Json.insertSorted Json.textBefore p.tool
      (better (found.lookup p.tool) (file.depth, ⟨path, p.kind, p.importance⟩)) found
  else found

/-- The configuration file of each tool that has one, sorted by the name of the tool. -/
def locate (files : List PlacedFile) : List (String × ConfigFile) :=
  (files.foldl (fun found file => ConfigPattern.known.foldl (consider file) found) []).map fun e =>
    (e.1, e.2.2)

end ConfigFile

end LintPlan
