import LintPlan.FileSystem.Writing
/-!
# Planting file trees

Building a tree item by item: what is planted at a path comes with the directories that it lies in.
-/

namespace LintPlan.FileTree

/-- Plants something at a path. A file that is there is written anew and stays executable if it was; a directory may be
there already, and nothing may be where a link is planted. -/
def plant (here : Location) (path : String) (node : FileNode) : FileAction Unit := do
  makeParents here path
  match node with
  | .directory => needDirectory here path
  | .file content executable =>
    writeFile here path content
    let t ← get
    match t.find here path true with
    | .ok ⟨loc, some (.file written old)⟩ => set (t.put loc (.file written (old || executable)))
    | _ => pure ()
  | .link target =>
    let t ← get
    match t.find here path false with
    | .error fault => throw fault
    | .ok ⟨_, some _⟩ => throw .alreadyExists
    | .ok ⟨loc, none⟩ => set (t.put loc (.link target))

/-- The paths with some names in front that lead to anything but a directory, with the bytes of the files among them,
and those below the paths that lead to directories. Links are followed; without a file there are no bytes. No path leads to
a name that is no text. -/
def filesUnder (t : FileTree) (here : Location) (dir : String) : (levels : Nat) → (names : List String) →
    List (String × List UInt8)
  | 0, _ => []
  | levels + 1, names =>
    match t.node here (Path.append dir (Path.ofNames names)) with
    | .ok (loc, .directory) =>
      let inside := (t.forest.descend (loc.map .ofText)).present.filterMap FileName.text?
      inside.flatMap fun name => filesUnder t here dir levels (names ++ [name])
    | .ok (_, .file content _) => [(Path.ofNames names, content)]
    | _ => [(Path.ofNames names, [])]

/-- What lies below a directory and is no directory, sorted by its paths from there. No path has more levels than it
may have bytes. -/
def filesBelow (t : FileTree) (here : Location) (dir : String) : List (String × List UInt8) :=
  (filesUnder t here dir (longestPath + 1) []).mergeSort fun a b => decide (a.1 ≤ b.1)

end LintPlan.FileTree
