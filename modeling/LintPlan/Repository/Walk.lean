import LintPlan.FileSystem.Lookup
import LintPlan.Text.Bytes
/-!
# Walks through repositories

The files and directories below a root, down to a depth, in the order of their names with a directory before
what is in it. Directories with certain names are passed by, and links are neither listed nor followed.
-/

namespace LintPlan

/-- What a walk looks at. -/
structure WalkOptions where
  /-- The number of names on the longest paths that are listed. -/
  maxDepth : Nat
  /-- Hidden directories that are entered. -/
  allowedHidden : List String
  /-- Directories that are not entered. -/
  skipped : List String
  deriving DecidableEq, Repr

namespace WalkOptions

/-- The depth of a walk that looks for configuration files. -/
def configDepth : Nat := 3

/-- Hidden directories with settings of tools. -/
def toolDirectories : List String := [".github", ".gitlab", ".circleci", ".husky", ".vscode"]

/-- Directories of version control, dependencies, build output and caches. -/
def foreignDirectories : List String :=
  [".git", ".hg", ".svn", "node_modules", "bower_components", "vendor", ".venv", "venv", "env",
   "target", "dist", "build", "out", "bin", "obj", ".next", ".nuxt", "__pycache__", ".pytest_cache",
   ".mypy_cache", ".ruff_cache", ".tox", ".gradle", ".cache", "coverage", ".lintscope"]

/-- The options of a walk that nobody changed, down to a depth. -/
def toDepth (depth : Nat) : WalkOptions := ⟨depth, toolDirectories, foreignDirectories⟩

/-- Is a directory of this name entered? -/
def enters (o : WalkOptions) (name : String) : Bool :=
  if o.skipped.contains name then false
  else if name.toList.head? == some '.' then o.allowedHidden.contains name
  else true

/-- Is a directory entered? Never if its name is no text. -/
def entersNamed (o : WalkOptions) (name : FileName) : Bool := name.text?.any o.enters

end WalkOptions

/-- Something that a walk lists. -/
structure WalkEntry where
  /-- The names from the root of the walk. -/
  names : List FileName
  /-- What is there. -/
  node : FileNode
  deriving DecidableEq, Repr

namespace WalkEntry

/-- The bytes of the path from the root of the walk: its names with slashes between them. -/
def pathBytes (e : WalkEntry) : List UInt8 := [0x2F].intercalate (e.names.map (·.bytes))

/-- The path from the root of the walk, as it is shown. -/
def path (e : WalkEntry) : String := Text.lossy e.pathBytes

/-- The last name of the path, unless that leads up. Names that lead nowhere else do not count. -/
def fileName? (e : WalkEntry) : Option FileName :=
  (e.names.filter fun name => !name.isIdle).getLast?.filter fun name => name != .ofText ".."

/-- The number of names on the path. -/
def depth (e : WalkEntry) : Nat := e.names.length

end WalkEntry

/-- Everything among the names of a forest that a walk lists, down to a depth. `above` are the names from the root of
the walk to the directory with these names. -/
def Forest.walk (o : WalkOptions) : Forest → (depth : Nat) → (above : List FileName) → List WalkEntry
  | nil, _, _ => []
  | cons .., 0, _ => []
  | cons name node inside beside, depth + 1, above =>
    let names := above ++ [name]
    let found := match node with
      | some (.file content executable) => [⟨names, .file content executable⟩]
      | some .directory => if o.entersNamed name then ⟨names, .directory⟩ :: walk o inside depth names else []
      | _ => []
    found ++ walk o beside (depth + 1) above

namespace FileTree

/-- Everything that a walk lists. -/
def walk (t : FileTree) (o : WalkOptions) (root : Location) : List WalkEntry :=
  (t.forest.descend (root.map .ofText)).walk o o.maxDepth []

/-- The files that a walk lists. -/
def walkFiles (t : FileTree) (o : WalkOptions) (root : Location) : List WalkEntry :=
  (t.walk o root).filter fun e => e.node.isFile

/-- The directories that a walk lists. -/
def walkDirectories (t : FileTree) (o : WalkOptions) (root : Location) : List WalkEntry :=
  (t.walk o root).filter fun e => e.node.isDirectory

end FileTree

end LintPlan
