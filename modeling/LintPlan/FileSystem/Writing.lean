import LintPlan.FileSystem.Lookup
/-!
# Changing file trees

Making directories, writing and renaming files, and replacing a file so that nobody sees half of it: the new
content goes to a file beside it, which then takes its name.
-/

namespace LintPlan

/-- An action that may change the tree and may be refused. What was changed before a refusal stays. -/
abbrev FileAction (α : Type) := ExceptT OsFault (StateM FileTree) α

namespace FileAction

/-- Runs an action: the tree afterwards and what came of it. -/
def on {α : Type} (a : FileAction α) (t : FileTree) : FileTree × Except OsFault α :=
  let r := a.run.run t
  (r.2, r.1)

end FileAction

namespace FileTree

/-- The path without slashes at its end. -/
def dropSlashes (path : String) : String :=
  String.ofList (Text.dropEndWhile (· == '/') path.toList)

/-- The entry that the last name of a path stands for; slashes behind that name do not count, and a link is not
followed. -/
def findEntry (t : FileTree) (here : Location) (path : String) : Except OsFault Found :=
  if isTooLong path then .error .nameTooLong
  else t.trace here (if dropSlashes path = "" then path else dropSlashes path) false

/-- Makes a directory; its own directory has to be there. -/
def makeDirectory (here : Location) (path : String) : FileAction Unit := do
  let t ← get
  match t.findEntry here path with
  | .error fault => throw fault
  | .ok ⟨_, some _⟩ => throw .alreadyExists
  | .ok ⟨loc, none⟩ => set (t.put loc .directory)

/-- Makes a directory unless it is there. -/
def needDirectory (here : Location) (path : String) : FileAction Unit := do
  match (makeDirectory here path).on (← get) with
  | (t, .ok _) => set t
  | (_, .error fault) => if (← get).isDirectory here path then pure () else throw fault

/-- Makes a directory with all the directories that it lies in. The parts of the path are given from the last to the
first. -/
def makeDirectories (here : Location) : (reversed : List String) → FileAction Unit
  | [] => pure ()
  | part :: up =>
    if Path.isIdle part then makeDirectories here up
    else do
      let path := Path.ofReversedParts (part :: up)
      match (makeDirectory here path).on (← get) with
      | (t, .ok _) => set t
      | (_, .error .notFound) => do
        makeDirectories here up
        needDirectory here path
      | (_, .error fault) => if (← get).isDirectory here path then pure () else throw fault

/-- Makes the directories that the last name of a path lies in. -/
def makeParents (here : Location) (path : String) : FileAction Unit :=
  match Path.parent? path with
  | some dir => makeDirectories here (Path.parts dir).reverse
  | none => pure ()

/-- Writes a file: what was in it is lost, a link at the end of the path is followed, a file that is not there is
made. -/
def writeFile (here : Location) (path : String) (content : List UInt8) : FileAction Unit := do
  let t ← get
  match t.find here path true with
  | .error fault => throw fault
  | .ok ⟨_, some .directory⟩ => throw .isDirectory
  | .ok ⟨loc, some (.file _ executable)⟩ => set (t.put loc (.file content executable))
  | .ok ⟨loc, _⟩ => set (t.put loc (.file content false))

/-- Does the path end with a slash? -/
def endsWithSlash (path : String) : Bool := path.toList.getLast? == some '/'

/-- Does the path end with a name, and not with dots? -/
def endsWithName (path : String) : Bool :=
  match ((Path.parts path).filter (· ≠ "")).getLast? with
  | some part => part ≠ "." && part ≠ ".."
  | none => false

/-- Gives a file another path. A file or a link that is there is replaced, a directory is not. The directories of both
paths have to be there before anything else counts. -/
def renameFile (here : Location) (old new : String) : FileAction Unit := do
  let t ← get
  match t.findEntry here old, t.findEntry here new with
  | .error fault, _ => throw fault
  | _, .error fault => throw fault
  | .ok source, .ok target =>
    if !endsWithName new then throw .busy
    match source.node with
    | none => throw .notFound
    | some moved =>
      if endsWithSlash new then throw .notDirectory
      else if target.node = some .directory then throw .isDirectory
      else set ((t.erase source.location).put target.location moved)

/-- The path of the temporary file, which holds the new content until it takes the name of the file. -/
def temporaryPath (path : String) : String :=
  Path.withFileName path ("." ++ (Path.fileName path).getD "lintscope" ++ ".tmp")

/-- Replaces the content of a file, or makes it together with the directories that it lies in. -/
def replaceFile (here : Location) (path text : String) : FileAction Unit := do
  makeParents here path
  writeFile here (temporaryPath path) (Text.bytesOf text)
  renameFile here (temporaryPath path) path

end FileTree

end LintPlan
