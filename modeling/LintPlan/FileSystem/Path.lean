import LintPlan.Text.Basic
/-!
# Paths as texts

Names between slashes. A path names a file through its last name, unless that is `..`; single dots
and empty names do not count.
-/

namespace LintPlan.Path

/-- Does the path start at the root? -/
def isAbsolute (path : String) : Bool := path.toList.head? == some '/'

/-- The parts of a path between its slashes. -/
def parts (path : String) : List String := (Text.splitOn '/' path.toList).map String.ofList

/-- Does a part of a path lead nowhere else? -/
def isIdle (part : String) : Bool := part == "" || part == "."

/-- The names of a path, without empty names and single dots. -/
def names (path : String) : List String := (parts path).filter fun part => !isIdle part

/-- The last name of a path, if it names a file or a directory. -/
def fileName (path : String) : Option String :=
  match (names path).getLast? with
  | some ".." => none
  | name => name

/-- What stands before and after the last dot. -/
def cutLastDot (cs : List Char) : Option (List Char × List Char) :=
  (Text.cut '.' cs.reverse).map fun p => (p.2.reverse, p.1.reverse)

/-- What follows the last dot of a name, unless nothing stands before that dot. -/
def nameExtension (name : String) : Option String :=
  match cutLastDot name.toList with
  | some (stem, ext) => if stem.isEmpty then none else some (String.ofList ext)
  | none => none

/-- The extension of the file that a path names. -/
def fileExtension (path : String) : Option String := (fileName path).bind nameExtension

/-- A relative path below `base`; an absolute path stands for itself. -/
def append (base path : String) : String :=
  if isAbsolute path || base == "" then path
  else if base.toList.getLast? == some '/' then base ++ path
  else base ++ "/" ++ path

/-- Names with slashes between them. -/
def ofNames (ns : List String) : String := Text.joined "/" ns

/-- The path from the root to the given names. -/
def absolute (ns : List String) : String := "/" ++ ofNames ns

/-- The path with the given parts, the last one first. -/
def ofReversedParts (ps : List String) : String := ofNames ps.reverse

/-- The path without its last name, if it has a name. What stands in front of the slash before that name is kept as it
is written, apart from slashes and single dots at its end. -/
def parent? (path : String) : Option String :=
  match (parts path).reverse.dropWhile isIdle with
  | [] => none
  | _ :: up =>
    match up.dropWhile isIdle with
    | [] => some (if isAbsolute path then "/" else "")
    | up => some (ofReversedParts up)

/-- The path with another last name; a path that names no file gets the name in addition. -/
def withFileName (path name : String) : String :=
  append (if (fileName path).isSome then (parent? path).getD "" else path) name

end LintPlan.Path
