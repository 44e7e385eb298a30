import LintPlan.Linter.Basic
/-!
# The catalog of linters

The tools that a plan can choose from, in groups. The order counts: of two rivals that are both
chosen, the one that stands first is kept.

Main statements: names are unique (`names_nodup`), and being rivals is mutual (`conflicts_comm`).
-/

namespace LintPlan.Catalog

/-! ## Patterns that several tools share -/

/-- Files of JavaScript. -/
def javaScriptFiles : List String := ["**/*.js", "**/*.jsx", "**/*.mjs", "**/*.cjs"]

/-- Files of TypeScript and JavaScript. -/
def scriptFiles : List String := ["**/*.ts", "**/*.tsx", "**/*.js", "**/*.jsx"]

/-- Files of Python. -/
def pythonFiles : List String := ["**/*.py"]

/-- Files of Go. -/
def goFiles : List String := ["**/*.go"]

/-- Files of Rust. -/
def rustFiles : List String := ["**/*.rs"]

/-- Files of Java. -/
def javaFiles : List String := ["**/*.java"]

/-- Files of Ruby. -/
def rubyFiles : List String := ["**/*.rb"]

/-- Shell scripts. -/
def shellFiles : List String := ["**/*.sh", "**/*.bash"]

/-- Files of C and C++. -/
def cFiles : List String := ["**/*.c", "**/*.h", "**/*.cpp", "**/*.cc", "**/*.hpp"]

/-- Every file. -/
def anyFile : List String := ["**/*"]

/-- Where JavaScript projects keep packages and products. -/
def javaScriptVendor : List String := ["node_modules/**", "dist/**", "build/**", "coverage/**"]

/-- Where Python projects keep environments and caches. -/
def pythonVendor : List String := [".venv/**", "venv/**", "**/__pycache__/**"]

/-- Where Go projects keep packages. -/
def goVendor : List String := ["vendor/**"]

/-- Where Rust projects keep products. -/
def rustVendor : List String := ["target/**"]

/-- Frameworks for user interfaces in the browser. -/
def webFrameworks : List String := ["react", "vue", "angular", "svelte", "nextjs", "nuxt", "gatsby"]

/-! ## The tools -/

/-- Tools for TypeScript and JavaScript. -/
def scripting : List Template := [
  { name := "eslint", languages := [.typeScript, .javaScript], frameworks := [],
    category := .language, severity := .error, rules := ["no-unused-vars", "no-undef", "eqeqeq"],
    scope := scriptFiles, outOfScope := javaScriptVendor, rivals := ["standard"] },
  { name := "standard", languages := [.javaScript], frameworks := [],
    category := .language, severity := .error, rules := [],
    scope := javaScriptFiles, outOfScope := javaScriptVendor, rivals := ["eslint"] },
  { name := "tsc", languages := [.typeScript], frameworks := [],
    category := .language, severity := .error, rules := ["strict"],
    scope := ["**/*.ts", "**/*.tsx"], outOfScope := javaScriptVendor, rivals := [] },
  { name := "prettier", languages := [.typeScript, .javaScript, .css, .html], frameworks := [],
    category := .format, severity := .warning, rules := [],
    scope := anyFile, outOfScope := javaScriptVendor, rivals := ["eslint-plugin-prettier"] },
  { name := "eslint-plugin-prettier", languages := [.typeScript, .javaScript], frameworks := [],
    category := .format, severity := .warning, rules := ["prettier/prettier"],
    scope := scriptFiles, outOfScope := javaScriptVendor, rivals := ["prettier"] },
  { name := "eslint-plugin-security", languages := [.typeScript, .javaScript], frameworks := [],
    category := .security, severity := .error,
    rules := ["security/detect-eval-with-expression", "security/detect-non-literal-require"],
    scope := scriptFiles, outOfScope := javaScriptVendor, rivals := [] },
  { name := "eslint-plugin-sonarjs", languages := [.typeScript, .javaScript], frameworks := [],
    category := .quality, severity := .warning, rules := ["sonarjs/cognitive-complexity"],
    scope := scriptFiles, outOfScope := javaScriptVendor, rivals := [] },
  { name := "eslint-plugin-jsdoc", languages := [.typeScript, .javaScript], frameworks := [],
    category := .documentation, severity := .info, rules := ["jsdoc/require-jsdoc"],
    scope := scriptFiles, outOfScope := javaScriptVendor, rivals := [] }]

/-- Tools for Python. -/
def python : List Template := [
  { name := "pylint", languages := [.python], frameworks := [],
    category := .language, severity := .warning, rules := ["C0114", "W0611"],
    scope := pythonFiles, outOfScope := pythonVendor, rivals := [] },
  { name := "flake8", languages := [.python], frameworks := [],
    category := .language, severity := .warning, rules := ["E9", "F63", "F7", "F82"],
    scope := pythonFiles, outOfScope := pythonVendor, rivals := ["ruff"] },
  { name := "ruff", languages := [.python], frameworks := [],
    category := .language, severity := .warning, rules := ["E", "F"],
    scope := pythonFiles, outOfScope := pythonVendor, rivals := ["flake8"] },
  { name := "mypy", languages := [.python], frameworks := [],
    category := .language, severity := .warning, rules := [],
    scope := pythonFiles, outOfScope := pythonVendor, rivals := [] },
  { name := "black", languages := [.python], frameworks := [],
    category := .format, severity := .warning, rules := [],
    scope := pythonFiles, outOfScope := pythonVendor, rivals := ["autopep8"] },
  { name := "autopep8", languages := [.python], frameworks := [],
    category := .format, severity := .info, rules := [],
    scope := pythonFiles, outOfScope := pythonVendor, rivals := ["black"] },
  { name := "isort", languages := [.python], frameworks := [],
    category := .format, severity := .info, rules := [],
    scope := pythonFiles, outOfScope := pythonVendor, rivals := [] },
  { name := "bandit", languages := [.python], frameworks := [],
    category := .security, severity := .error, rules := ["B101", "B602"],
    scope := pythonFiles, outOfScope := pythonVendor, rivals := [] },
  { name := "radon", languages := [.python], frameworks := [],
    category := .quality, severity := .info, rules := [],
    scope := pythonFiles, outOfScope := pythonVendor, rivals := [] },
  { name := "pydocstyle", languages := [.python], frameworks := [],
    category := .documentation, severity := .info, rules := ["D100", "D103"],
    scope := pythonFiles, outOfScope := pythonVendor, rivals := [] },
  { name := "perflint", languages := [.python], frameworks := [],
    category := .performance, severity := .info, rules := [],
    scope := pythonFiles, outOfScope := pythonVendor, rivals := [] }]

/-- Tools for Go. -/
def go : List Template := [
  { name := "golangci-lint", languages := [.go], frameworks := [],
    category := .language, severity := .error, rules := ["govet", "errcheck", "staticcheck"],
    scope := goFiles, outOfScope := goVendor, rivals := ["revive"] },
  { name := "revive", languages := [.go], frameworks := [],
    category := .language, severity := .warning, rules := [],
    scope := goFiles, outOfScope := goVendor, rivals := ["golangci-lint"] },
  { name := "gofmt", languages := [.go], frameworks := [],
    category := .format, severity := .warning, rules := [],
    scope := goFiles, outOfScope := goVendor, rivals := [] },
  { name := "gosec", languages := [.go], frameworks := [],
    category := .security, severity := .error, rules := [],
    scope := goFiles, outOfScope := goVendor, rivals := [] }]

/-- Tools for Rust. -/
def rust : List Template := [
  { name := "clippy", languages := [.rust], frameworks := [],
    category := .language, severity := .warning, rules := ["clippy::all"],
    scope := rustFiles, outOfScope := rustVendor, rivals := [] },
  { name := "rustfmt", languages := [.rust], frameworks := [],
    category := .format, severity := .warning, rules := [],
    scope := rustFiles, outOfScope := rustVendor, rivals := [] },
  { name := "cargo-audit", languages := [.rust], frameworks := [],
    category := .security, severity := .error, rules := [],
    scope := ["**/Cargo.lock"], outOfScope := [], rivals := [] }]

/-- Tools for the languages of the Java platform. -/
def jvm : List Template := [
  { name := "checkstyle", languages := [.java], frameworks := [],
    category := .language, severity := .warning, rules := ["google_checks"],
    scope := javaFiles, outOfScope := ["target/**", "build/**"], rivals := [] },
  { name := "pmd", languages := [.java], frameworks := [],
    category := .quality, severity := .warning, rules := ["category/java/bestpractices.xml"],
    scope := javaFiles, outOfScope := ["target/**", "build/**"], rivals := [] },
  { name := "spotbugs", languages := [.java, .kotlin], frameworks := [],
    category := .quality, severity := .warning, rules := [],
    scope := ["**/*.java", "**/*.kt"], outOfScope := ["target/**", "build/**"], rivals := [] },
  { name := "ktlint", languages := [.kotlin], frameworks := [],
    category := .language, severity := .warning, rules := [],
    scope := ["**/*.kt", "**/*.kts"], outOfScope := ["build/**"], rivals := [] },
  { name := "detekt", languages := [.kotlin], frameworks := [],
    category := .quality, severity := .warning, rules := [],
    scope := ["**/*.kt"], outOfScope := ["build/**"], rivals := [] },
  { name := "scalafix", languages := [.scala], frameworks := [],
    category := .language, severity := .warning, rules := [],
    scope := ["**/*.scala"], outOfScope := ["target/**"], rivals := [] }]

/-- Tools for Ruby and PHP. -/
def rubyAndPhp : List Template := [
  { name := "rubocop", languages := [.ruby], frameworks := [],
    category := .language, severity := .warning, rules := [],
    scope := rubyFiles, outOfScope := ["vendor/**"], rivals := ["standardrb"] },
  { name := "standardrb", languages := [.ruby], frameworks := [],
    category := .language, severity := .warning, rules := [],
    scope := rubyFiles, outOfScope := ["vendor/**"], rivals := ["rubocop"] },
  { name := "brakeman", languages := [.ruby], frameworks := [],
    category := .security, severity := .error, rules := [],
    scope := rubyFiles, outOfScope := ["vendor/**"], rivals := [] },
  { name := "phpcs", languages := [.php], frameworks := [],
    category := .language, severity := .warning, rules := ["PSR12"],
    scope := ["**/*.php"], outOfScope := ["vendor/**"], rivals := [] }]

/-- Tools for the other languages. -/
def otherLanguages : List Template := [
  { name := "cppcheck", languages := [.c, .cpp], frameworks := [],
    category := .language, severity := .warning, rules := [],
    scope := cFiles, outOfScope := [], rivals := [] },
  { name := "clang-format", languages := [.c, .cpp], frameworks := [],
    category := .format, severity := .info, rules := [],
    scope := cFiles, outOfScope := [], rivals := [] },
  { name := "dotnet-format", languages := [.cSharp], frameworks := [],
    category := .format, severity := .warning, rules := [],
    scope := ["**/*.cs"], outOfScope := ["bin/**", "obj/**"], rivals := [] },
  { name := "swiftlint", languages := [.swift], frameworks := [],
    category := .language, severity := .warning, rules := [],
    scope := ["**/*.swift"], outOfScope := [], rivals := [] },
  { name := "dart-analyze", languages := [.dart], frameworks := [],
    category := .language, severity := .warning, rules := [],
    scope := ["**/*.dart"], outOfScope := [], rivals := [] },
  { name := "luacheck", languages := [.lua], frameworks := [],
    category := .language, severity := .warning, rules := [],
    scope := ["**/*.lua"], outOfScope := [], rivals := [] },
  { name := "credo", languages := [.elixir], frameworks := [],
    category := .language, severity := .warning, rules := [],
    scope := ["**/*.ex", "**/*.exs"], outOfScope := ["deps/**"], rivals := [] },
  { name := "lintr", languages := [.r], frameworks := [],
    category := .language, severity := .info, rules := [],
    scope := ["**/*.R", "**/*.r"], outOfScope := [], rivals := [] },
  { name := "perlcritic", languages := [.perl], frameworks := [],
    category := .language, severity := .warning, rules := [],
    scope := ["**/*.pl", "**/*.pm"], outOfScope := [], rivals := [] },
  { name := "psscriptanalyzer", languages := [.powerShell], frameworks := [],
    category := .language, severity := .warning, rules := [],
    scope := ["**/*.ps1", "**/*.psm1"], outOfScope := [], rivals := [] },
  { name := "shellcheck", languages := [.shell], frameworks := [],
    category := .language, severity := .warning, rules := [],
    scope := shellFiles, outOfScope := [], rivals := [] },
  { name := "shfmt", languages := [.shell], frameworks := [],
    category := .format, severity := .info, rules := [],
    scope := shellFiles, outOfScope := [], rivals := [] },
  { name := "sqlfluff", languages := [.sql], frameworks := [],
    category := .language, severity := .warning, rules := [],
    scope := ["**/*.sql"], outOfScope := [], rivals := [] },
  { name := "stylelint", languages := [.css], frameworks := [],
    category := .language, severity := .warning, rules := [],
    scope := ["**/*.css", "**/*.scss"], outOfScope := javaScriptVendor, rivals := [] },
  { name := "htmlhint", languages := [.html], frameworks := [],
    category := .language, severity := .warning, rules := [],
    scope := ["**/*.html", "**/*.htm"], outOfScope := javaScriptVendor, rivals := [] },
  { name := "hadolint", languages := [.dockerfile], frameworks := [],
    category := .language, severity := .warning, rules := [],
    scope := ["**/Dockerfile", "**/Dockerfile.*"], outOfScope := [], rivals := [] },
  { name := "checkmake", languages := [.makefile], frameworks := [],
    category := .language, severity := .info, rules := [],
    scope := ["**/Makefile"], outOfScope := [], rivals := [] },
  { name := "tflint", languages := [.terraform], frameworks := [],
    category := .language, severity := .warning, rules := [],
    scope := ["**/*.tf"], outOfScope := [".terraform/**"], rivals := [] },
  { name := "trivy", languages := [.dockerfile, .terraform], frameworks := [],
    category := .security, severity := .error, rules := [],
    scope := anyFile, outOfScope := [], rivals := [] }]

/-- Tools that a framework calls for. -/
def forFrameworks : List Template := [
  { name := "eslint-plugin-react", languages := [], frameworks := ["react", "nextjs", "gatsby"],
    category := .language, severity := .warning, rules := ["react/jsx-key", "react-hooks/rules-of-hooks"],
    scope := scriptFiles, outOfScope := javaScriptVendor, rivals := [] },
  { name := "eslint-plugin-jsx-a11y", languages := [], frameworks := ["react", "nextjs", "gatsby"],
    category := .accessibility, severity := .warning, rules := ["jsx-a11y/alt-text"],
    scope := scriptFiles, outOfScope := javaScriptVendor, rivals := [] },
  { name := "eslint-plugin-vue", languages := [], frameworks := ["vue", "nuxt"],
    category := .language, severity := .warning, rules := ["vue/no-unused-vars"],
    scope := ["**/*.vue", "**/*.js", "**/*.ts"], outOfScope := javaScriptVendor, rivals := [] },
  { name := "eslint-plugin-vuejs-accessibility", languages := [], frameworks := ["vue", "nuxt"],
    category := .accessibility, severity := .warning, rules := [],
    scope := ["**/*.vue"], outOfScope := javaScriptVendor, rivals := [] },
  { name := "angular-eslint", languages := [], frameworks := ["angular"],
    category := .language, severity := .warning, rules := [],
    scope := ["**/*.ts", "**/*.html"], outOfScope := javaScriptVendor, rivals := [] },
  { name := "eslint-plugin-jest", languages := [], frameworks := ["jest"],
    category := .quality, severity := .info, rules := ["jest/no-focused-tests"],
    scope := ["**/*.test.*", "**/*.spec.*"], outOfScope := javaScriptVendor, rivals := [] },
  { name := "lighthouse", languages := [], frameworks := webFrameworks,
    category := .performance, severity := .info, rules := [],
    scope := ["**/*.html"], outOfScope := javaScriptVendor, rivals := [] },
  { name := "pylint-django", languages := [], frameworks := ["django"],
    category := .language, severity := .warning, rules := [],
    scope := pythonFiles, outOfScope := pythonVendor, rivals := [] },
  { name := "flake8-bugbear", languages := [], frameworks := ["flask", "fastapi"],
    category := .quality, severity := .warning, rules := ["B"],
    scope := pythonFiles, outOfScope := pythonVendor, rivals := [] },
  { name := "rails-best-practices", languages := [], frameworks := ["rails"],
    category := .quality, severity := .info, rules := [],
    scope := rubyFiles, outOfScope := ["vendor/**"], rivals := [] },
  { name := "phpstan", languages := [], frameworks := ["laravel", "symfony"],
    category := .quality, severity := .warning, rules := [],
    scope := ["**/*.php"], outOfScope := ["vendor/**"], rivals := [] }]

/-- Tools for every repository. -/
def universal : List Template := [
  { name := "gitleaks", languages := [], frameworks := [],
    category := .security, severity := .error, rules := [],
    scope := anyFile, outOfScope := [], rivals := [] },
  { name := "secretlint", languages := [], frameworks := [],
    category := .security, severity := .warning, rules := [],
    scope := anyFile, outOfScope := javaScriptVendor, rivals := [] },
  { name := "jscpd", languages := [], frameworks := [],
    category := .quality, severity := .info, rules := [],
    scope := anyFile, outOfScope := javaScriptVendor, rivals := [] },
  { name := "editorconfig-checker", languages := [], frameworks := [],
    category := .format, severity := .info, rules := [],
    scope := anyFile, outOfScope := javaScriptVendor, rivals := [] },
  { name := "markdownlint", languages := [], frameworks := [],
    category := .documentation, severity := .info, rules := ["MD013"],
    scope := ["**/*.md"], outOfScope := javaScriptVendor, rivals := [] },
  { name := "cspell", languages := [], frameworks := [],
    category := .documentation, severity := .info, rules := [],
    scope := anyFile, outOfScope := javaScriptVendor, rivals := [] }]

/-- Every tool, in the order of the catalog. -/
def templates : List Template :=
  scripting ++ python ++ go ++ rust ++ jvm ++ rubyAndPhp ++ otherLanguages ++ forFrameworks ++
    universal

/-- Pairs of tools that do the same work. -/
def conflictPairs : List (String × String) := [
  ("prettier", "eslint-plugin-prettier"), ("eslint", "standard"), ("black", "autopep8"), ("flake8", "ruff"),
  ("golangci-lint", "revive"), ("rubocop", "standardrb")]

/-! ## Looking up -/

/-- The tool with a name. -/
def find? (name : String) : Option Template := templates.find? fun t => t.name == name

/-- Does the catalog list `b` among the rivals of `a`? -/
def lists (a b : String) : Bool := (find? a).any fun t => t.rivals.contains b

/-- Are the two tools one of the pairs, in either order? -/
def arePaired (a b : String) : Bool := conflictPairs.any fun pair => (pair.1 == a && pair.2 == b) || (pair.1 == b && pair.2 == a)

/-- May the two tools not run together? A tool is no rival of itself. -/
def conflicts (a b : String) : Bool := a != b && (arePaired a b || lists a b || lists b a)

/-- The tools for a language. -/
def forLanguage (l : Language) : List Template := templates.filter (·.supportsLanguage l)

/-- The tools that a framework calls for. -/
def forFramework (framework : String) : List Template := templates.filter (·.supportsFramework framework)

/-- The tools with a file in their scope. -/
def forFile (path : String) : List Template := templates.filter (·.matchesFile path)

/-! ## Laws -/

theorem names_nodup : (templates.map (·.name)).Nodup := by decide +kernel

theorem conflicts_irrefl (a : String) : conflicts a a = false := by simp [conflicts]

theorem arePaired_comm (a b : String) : arePaired a b = arePaired b a := by
  simp only [arePaired, Bool.or_comm]

theorem conflicts_comm (a b : String) : conflicts a b = conflicts b a := by
  simp only [conflicts, Bool.or_assoc, arePaired_comm a b, Bool.or_comm (lists a b), bne_comm (a := a)]

end LintPlan.Catalog
