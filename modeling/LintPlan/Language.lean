import LintPlan.Text.Folding
import LintPlan.FileSystem.Path
/-!
# Programming languages

The languages that a profile can name, and how a file's name shows its language. Formats of data and
documents are no languages here: they never compete with source code for a place in a profile.
-/

namespace LintPlan

/-- A language that a profile can name. -/
inductive Language where
  | typeScript | javaScript | python | java | kotlin | scala | go | rust | ruby | php | cSharp | c
  | cpp | swift | dart | lua | elixir | r | perl | powerShell | shell | sql | html | css | terraform
  | dockerfile | makefile
  deriving DecidableEq, Repr, Inhabited

namespace Language

/-- Every language. -/
def all : List Language :=
  [.typeScript, .javaScript, .python, .java, .kotlin, .scala, .go, .rust, .ruby, .php, .cSharp, .c,
   .cpp, .swift, .dart, .lua, .elixir, .r, .perl, .powerShell, .shell, .sql, .html, .css, .terraform,
   .dockerfile, .makefile]

/-- The name of a language in every document. -/
def name : Language → String
  | typeScript => "typescript"
  | javaScript => "javascript"
  | python => "python"
  | java => "java"
  | kotlin => "kotlin"
  | scala => "scala"
  | go => "go"
  | rust => "rust"
  | ruby => "ruby"
  | php => "php"
  | cSharp => "csharp"
  | c => "c"
  | cpp => "cpp"
  | swift => "swift"
  | dart => "dart"
  | lua => "lua"
  | elixir => "elixir"
  | r => "r"
  | perl => "perl"
  | powerShell => "powershell"
  | shell => "shell"
  | sql => "sql"
  | html => "html"
  | css => "css"
  | terraform => "terraform"
  | dockerfile => "dockerfile"
  | makefile => "makefile"

/-- The language with a name. -/
def ofName? (s : String) : Option Language := all.find? fun l => l.name == s

/-- Other names that a user may write, in any case. -/
def synonyms : List (String × Language) :=
  [("ts", typeScript), ("js", javaScript), ("py", python), ("golang", go), ("c#", cSharp),
   ("c++", cpp), ("bash", shell), ("docker", dockerfile), ("make", makefile)]

/-- Reads a name or another name of a language in any case. -/
def parse? (s : String) : Option Language :=
  let word := String.ofList (Text.lower s.toList)
  (ofName? word).orElse fun _ => synonyms.lookup word

/-- File extensions, in lower case. -/
def extensions : Language → List String
  | typeScript => ["ts", "tsx", "mts", "cts"]
  | javaScript => ["js", "jsx", "mjs", "cjs"]
  | python => ["py", "pyi", "pyw"]
  | java => ["java"]
  | kotlin => ["kt", "kts"]
  | scala => ["scala", "sc"]
  | go => ["go"]
  | rust => ["rs"]
  | ruby => ["rb", "rake", "gemspec"]
  | php => ["php"]
  | cSharp => ["cs", "csx"]
  | c => ["c", "h"]
  | cpp => ["cpp", "cc", "cxx", "hpp", "hxx", "hh"]
  | swift => ["swift"]
  | dart => ["dart"]
  | lua => ["lua"]
  | elixir => ["ex", "exs"]
  | r => ["r"]
  | perl => ["pl", "pm"]
  | powerShell => ["ps1", "psm1", "psd1"]
  | shell => ["sh", "bash", "zsh", "ksh"]
  | sql => ["sql"]
  | html => ["html", "htm"]
  | css => ["css", "scss", "sass", "less"]
  | terraform => ["tf", "tfvars", "hcl"]
  | dockerfile => ["dockerfile"]
  | makefile => ["mk"]

/-- The language of a file extension in any case. -/
def ofExtension? (ext : String) : Option Language :=
  let word := String.ofList (Text.lower ext.toList)
  all.find? fun l => l.extensions.contains word

/-- Names of scripts that are shell by convention. -/
def shellScriptNames : List String :=
  ["configure", "gradlew", "mvnw", ".bashrc", ".bash_profile", ".zshrc", ".profile"]

/-- The language of a file whose name, not its extension, shows it. -/
def ofFileName? (name : String) : Option Language :=
  if name == "Dockerfile" || name == "Containerfile" ||
      (Text.after "Dockerfile.".toList name.toList).isSome then some dockerfile
  else if ["Makefile", "makefile", "GNUmakefile"].contains name then some makefile
  else if shellScriptNames.contains name then some shell
  else none

/-- The language of a file with a name: by the name itself if that shows it, else by its extension. -/
def ofNamedFile? (name : String) : Option Language :=
  (ofFileName? name).orElse fun _ => (Path.nameExtension name).bind ofExtension?

/-- The language of the file that a path names. -/
def ofPath? (path : String) : Option Language := (Path.fileName path).bind ofNamedFile?

/-- Languages whose frameworks come from a package manifest of the npm kind. -/
def isJavaScriptFamily (l : Language) : Bool := l == typeScript || l == javaScript

/-- Languages whose build manifests live in Maven or Gradle files. -/
def isJvm (l : Language) : Bool := l == java || l == kotlin || l == scala

theorem ofName?_name (l : Language) : ofName? l.name = some l := by
  cases l <;> rfl

end Language

end LintPlan
