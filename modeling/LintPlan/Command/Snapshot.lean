import LintPlan.Command.Program
import LintPlan.FileSystem.Planting
import LintPlan.Json.Decode
/-!
# Descriptions of worlds

A document that says all that the program can see: environment variables, the working directory, files, how container
engines behave, and what an execution is stamped with. Whatever it does not say is empty, and an engine that it does
not name is not available.
-/

namespace LintPlan

open Json

namespace EngineBehaviour

/-- An engine that is not there. -/
def missing : EngineBehaviour where
  checkSeconds := 0
  available := false
  startFault := none
  stdout := []
  stderr := []
  ending := .exits (some 0)
  attempt := .command true
  obeys := true

/-- The engine that a document describes: what its container writes, and the code that it exits with. -/
def ofJson? (j : Json) : Option EngineBehaviour := do
  let stdout ← j.optional "stdout" "" toText?
  let stderr ← j.optional "stderr" "" toText?
  let code ← j.optional "exit" 0 toWord32?
  some { missing with
    available := true
    stdout := Text.bytesOf stdout
    stderr := Text.bytesOf stderr
    ending := .exits (some (Int.ofNat code)) }

end EngineBehaviour

namespace FileNode

/-- What an item of a document holds: a directory, a link or a file. -/
def ofJson? (j : Json) : Option FileNode := do
  let directory ← j.optional "directory" false toBool?
  let executable ← j.optional "executable" false toBool?
  let text ← j.optional "text" "" toText?
  let target ← j.optional "link" none fun t => (toText? t).map some
  some (match directory, target with
    | true, _ => .directory
    | false, some target => .link target
    | false, none => .file (Text.bytesOf text) executable)

end FileNode

namespace World

/-- A text for each key of an object. -/
def textEntries? : Json → Option (List (String × String))
  | .obj entries => entries.mapM fun e => (toText? e.2).map fun v => (e.1, v)
  | _ => none

/-- An engine for each key of an object. -/
def engineEntries? : Json → Option (List (String × EngineBehaviour))
  | .obj entries => entries.mapM fun e => (EngineBehaviour.ofJson? e.2).map fun b => (e.1, b)
  | _ => none

/-- Plants an item of a document. -/
def plantItem (here : Location) (t : FileTree) (item : Json) : Option FileTree := do
  let path ← (item.get? "path").bind toText?
  let node ← FileNode.ofJson? item
  match (FileTree.plant here path node).on t with
  | (t, .ok _) => some t
  | (_, .error _) => none

/-- The world that a document describes. -/
def ofJson? (j : Json) : Option World := do
  let environment ← j.optional "environment" [] textEntries?
  let directory ← j.optional "directory" "/" toText?
  let here := Path.names directory
  let items ← j.optional "files" [] (toList? some)
  let ground := (List.range here.length).foldl (fun (t : FileTree) n => t.put (here.take (n + 1)) .directory) .empty
  let files ← items.foldlM (plantItem here) ground
  let engines ← j.optional "engines" [] engineEntries?
  let execution ← j.optional "execution" "00000000-0000-4000-8000-000000000000" toText?
  let time ← j.optional "time" "1970-01-01T00:00:00+00:00" toText?
  some ⟨environment, files, here, fun name => (engines.lookup name).getD .missing, ⟨execution, time, 0⟩⟩

end World

end LintPlan
