import LintPlan.FileSystem.Fault
import LintPlan.FileSystem.Path
import LintPlan.FileSystem.Tree
/-!
# Following paths

What a path leads to in a tree, and reading from it. Links are followed, at most forty on one path; whether
a link at the end of a path is followed is up to the caller. Relative paths start at a given directory.
-/

namespace LintPlan

/-- Where a path leads to. -/
structure Found where
  location : Location
  /-- What is there. There may be nothing, as long as the directory of the place is there. -/
  node : Option FileNode
  deriving DecidableEq, Repr

namespace FileTree

/-- How many links may be followed on one path. -/
def mostLinks : Nat := 40

/-- The most bytes in a name. -/
def longestName : Nat := 255

/-- The most bytes in a path. -/
def longestPath : Nat := 4095

/-- The way from the root to a directory: its names, each with the names below it, the last one first. -/
abbrev Trail := List (String × Forest)

/-- The directory that a trail leads to. -/
def Trail.location (way : Trail) : Location := (way.map Prod.fst).reverse

/-- The names in the directory that a trail leads to. -/
def inside (t : FileTree) : Trail → Forest
  | [] => t.forest
  | (_, f) :: _ => f

/-- The trail to a directory. -/
def trailTo (t : FileTree) (loc : Location) : Trail :=
  loc.foldl (fun way name => (name, ((t.inside way).under (.ofText name)).2) :: way) []

/-- The directory at which a path starts: the root, or the given one. -/
def origin (way : Trail) (path : String) : Trail := if Path.isAbsolute path then [] else way

/-- Goes along the parts of a path from a directory. `jump` goes on from a directory after a link, with the parts of
the link's target in front of the others. -/
def along (t : FileTree) (toEnd : Bool) (jump : Trail → List String → Except OsFault Found) :
    Trail → List String → Except OsFault Found
  | way, [] => .ok ⟨Trail.location way, some .directory⟩
  | way, part :: rest =>
    if Path.isIdle part then along t toEnd jump way rest
    else if part = ".." then along t toEnd jump way.tail rest
    else if longestName < part.utf8ByteSize then .error .nameTooLong
    else
      let (node, below) := (t.inside way).under (.ofText part)
      let next : Trail := (part, below) :: way
      match node with
      | none => if rest.isEmpty then .ok ⟨Trail.location next, none⟩ else .error .notFound
      | some .directory => along t toEnd jump next rest
      | some (.file content executable) =>
        if rest.isEmpty then .ok ⟨Trail.location next, some (.file content executable)⟩ else .error .notDirectory
      | some (.link target) =>
        if rest.isEmpty && !toEnd then .ok ⟨Trail.location next, some (.link target)⟩
        else jump (origin way target) (Path.parts target ++ rest)

/-- Goes along the parts of a path, with a number of links that may be followed. -/
def follow (t : FileTree) (toEnd : Bool) : Nat → Trail → List String → Except OsFault Found
  | 0 => along t toEnd fun _ _ => .error .tooManyLinks
  | links + 1 => along t toEnd (follow t toEnd links)

/-- Follows a path of any length from a directory. With `toEnd`, a link at the end is followed too. -/
def trace (t : FileTree) (here : Location) (path : String) (toEnd : Bool) : Except OsFault Found :=
  if path.toList.any fun c => c.toNat == 0 then .error .nulInPath
  else if path = "" then .error .notFound
  else follow t toEnd mostLinks (origin (t.trailTo here) path) (Path.parts path)

/-- Is the path too long? That a path cannot be one at all goes before. -/
def isTooLong (path : String) : Bool :=
  longestPath < path.utf8ByteSize && path.toList.all fun c => c.toNat != 0

/-- Follows a path from a directory. With `toEnd`, a link at the end is followed too. -/
def find (t : FileTree) (here : Location) (path : String) (toEnd : Bool) : Except OsFault Found :=
  if isTooLong path then .error .nameTooLong else t.trace here path toEnd

/-- What was found, if something is there. -/
def present : Except OsFault Found → Except OsFault (Location × FileNode)
  | .error fault => .error fault
  | .ok ⟨_, none⟩ => .error .notFound
  | .ok ⟨loc, some n⟩ => .ok (loc, n)

/-- What a path leads to; it has to be there. -/
def node (t : FileTree) (here : Location) (path : String) : Except OsFault (Location × FileNode) :=
  present (t.find here path true)

/-- What a path of any length leads to when it is followed name by name; it has to be there. -/
def resolve (t : FileTree) (here : Location) (path : String) : Except OsFault (Location × FileNode) :=
  present (t.trace here path true)

/-- Does a path lead to a file? -/
def isFile (t : FileTree) (here : Location) (path : String) : Bool :=
  match t.node here path with
  | .ok (_, n) => n.isFile
  | .error _ => false

/-- Does a path lead to a directory? -/
def isDirectory (t : FileTree) (here : Location) (path : String) : Bool :=
  match t.node here path with
  | .ok (_, n) => n.isDirectory
  | .error _ => false

/-- The bytes of the file that a path leads to. -/
def readBytes (t : FileTree) (here : Location) (path : String) : Except OsFault (List UInt8) :=
  match t.node here path with
  | .error fault => .error fault
  | .ok (_, .file content _) => .ok content
  | .ok _ => .error .isDirectory

/-- The text of the file that a path leads to. -/
def readText (t : FileTree) (here : Location) (path : String) : Except OsFault String :=
  match t.readBytes here path with
  | .error fault => .error fault
  | .ok bytes =>
    match Text.ofBytes? bytes with
    | some text => .ok text
    | none => .error .notText

end FileTree

end LintPlan
