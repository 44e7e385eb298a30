import LintPlan.Document.Preferences
import LintPlan.Failure
import LintPlan.FileSystem.Lookup
import LintPlan.Json.Reader
import LintPlan.Toml.Reader
/-!
# Files with preferences

A file whose extension is `json`, in any case, holds JSON; any other file holds TOML. Preferences of which no plan
could be made are refused.
-/

namespace LintPlan

/-- The rules for TOML documents: a list may be longer than its record, and the empty payload of a choice is an empty
table or an empty list. -/
def Toml.dialect : Json.Dialect where
  surplusItems := true
  isEmptyPayload := fun j => match j with
    | .obj [] => true
    | .arr [] => true
    | _ => false

namespace Preferences

/-- Does the path name a file with JSON? -/
def isJsonPath (path : String) : Bool :=
  (Path.fileExtension path).any fun ext => Text.lowerAscii ext == "json"

/-- Reads the text of a file with preferences. -/
def ofText (json : Bool) (text : String) : Except PreferencesFault Preferences :=
  let unexpected : Except PreferencesFault Preferences := .error (.malformed "no preferences")
  if json then
    match Json.document text.toList with
    | .error fault => .error (.malformed fault.message)
    | .ok j => (ofJson? Json.strict j).elim unexpected .ok
  else
    match Toml.read text.toList with
    | .error fault => .error (.malformed fault.message)
    | .ok j => (ofJson? Toml.dialect j).elim unexpected .ok

/-- Why the file at a path gives no preferences, or the preferences in it. -/
def ofFile (t : FileTree) (here : Location) (path : String) : Except PreferencesFault Preferences :=
  match t.readText here path with
  | .error fault => .error (.unreadable fault)
  | .ok text =>
    match ofText (isJsonPath path) text with
    | .error fault => .error fault
    | .ok p =>
      match p.fault? with
      | some fault => .error (.unusable fault)
      | none => .ok p

/-- Reads the file at a path. -/
def read (t : FileTree) (here : Location) (path : String) : Except Failure Preferences :=
  (ofFile t here path).mapError (.preferences path)

end Preferences

end LintPlan
