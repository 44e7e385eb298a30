import LintPlan.Toml.Moment
import LintPlan.Toml.Number
import LintPlan.Toml.Table
import LintPlan.Toml.Text
/-!
# Reading TOML

A document is read statement by statement into a table; its value is an object. Lists and tables in braces may nest
below a limit.
-/

namespace LintPlan.Toml

/-- Lists and tables in braces, and names in a key, stay below this number. -/
def nestingLimit : Nat := 80

/-! ## Keys -/

/-- A character of a key without quotes. -/
def isKeyPart (c : Char) : Bool := c.isAlphanum || c == '_' || c == '-'

/-- Takes one name of a key with blanks around it. -/
def name (fuel : Nat) : Reading String := fun cs =>
  let cs := skipBlanks cs
  let taken : Except Refusal (List Char × List Char) := match cs with
    | '"' :: rest => quoted fuel [] rest
    | '\'' :: rest => literal rest
    | _ =>
      if (cs.takeWhile isKeyPart).isEmpty then .error (.mild {})
      else .ok (cs.takeWhile isKeyPart, cs.dropWhile isKeyPart)
  taken.map fun p => (String.ofList p.1, skipBlanks p.2)

/-- Takes more names with dots in front of them, behind those that were taken already, the last one first. A dot without
a name behind it is left. -/
def moreNames : (fuel : Nat) → (done : List String) → Reading (List String)
  | fuel + 1, done, '.' :: rest =>
    match name (fuel + 1) rest with
    | .ok (n, rest) => moreNames fuel (n :: done) rest
    | .error ⟨fault, true⟩ => .error ⟨fault, true⟩
    | .error ⟨_, false⟩ => .ok (done.reverse, '.' :: rest)
  | _, done, cs => .ok (done.reverse, cs)

/-- A key: the names in front of the last one, and the last name. -/
structure Key where
  /-- The names in front of the last one. -/
  path : List String
  /-- The last name. -/
  name : String
  deriving DecidableEq, Repr

/-- All names of a key. -/
def Key.names (k : Key) : List String := k.path ++ [k.name]

/-- Takes a key. -/
def key (fuel : Nat) : Reading Key := fun cs => do
  let (names, rest) ← (Reading.labelled "key" fun cs => do
    let (first, rest) ← name fuel cs
    moreNames fuel [first] rest) cs
  if nestingLimit ≤ names.length then .error (.mild (.of .tooDeep))
  else .ok (⟨names.dropLast, names.getLastD ""⟩, rest)

/-- Takes the mark between a key and its value, and blanks. -/
def equals : Reading Unit := fun cs => do
  let (_, rest) ← (Reading.sure (exactly "=")).wanting ["`.`", "`=`"] cs
  .ok ((), skipBlanks rest)

/-! ## Values -/

/-- The marks that texts start with, as messages say them. -/
def textMarks : List String := ["`\"`", "`'`"]

/-- The reader of a word, refusing as where a text is wanted. -/
def word (r : Reading Json) : Reading Json := (r.labelled "string").wanting textMarks

/-- Takes a value that is neither a text nor a list nor a table. -/
def plainValue : Reading Json := fun cs =>
  match cs with
  | [] => .error (.mild {})
  | 't' :: _ => word ((exactly "true").mapped fun _ => .bool true).sure cs
  | 'f' :: _ => word ((exactly "false").mapped fun _ => .bool false).sure cs
  | 'i' :: _ => word (infinity false) cs
  | 'n' :: _ => word noNumber cs
  | '_' :: _ => integer.wanting ["leading digit"] cs
  | '.' :: _ => float.wanting ["leading digit"] cs
  | c :: _ =>
    if c == '+' || c == '-' || c.isDigit then
      (moment.mapped fun _ => Json.date).orElse (float.orElse integer) cs
    else word (fun _ => .error (.mild {})) cs

/-- The refusal of a list that does not end where it has to. -/
def openList : Refusal := .hard { label := some "array", expected := ["`]`"] }

/-- The refusal of a table in braces that does not end where it has to. -/
def openBraces : Refusal := .hard { label := some "inline table", expected := ["`\x7d`"] }

/-- The table with the given entries, put one after the other. -/
def tableOf (members : List (Key × Json)) : Except Refusal Json :=
  match members.foldlM (fun t m => t.member m.1.path m.1.name m.2) Table.stated with
  | .ok t => .ok t.toJson
  | .error cause => .error (.hard (.of cause))

mutual

/-- Takes a value. `depth` is one more than the number of levels that may still nest. -/
def value : (fuel depth : Nat) → Reading Json
  | 0, _, _ => .error (.hard {})
  | fuel + 1, depth, cs =>
    match cs with
    | '"' :: _ => (text (fuel + 1)).mapped Json.str cs
    | '\'' :: _ => (text (fuel + 1)).mapped Json.str cs
    | '[' :: rest => if depth ≤ 1 then .error (.hard (.of .tooDeep)) else items fuel (depth - 1) [] rest
    | '\x7b' :: rest => if depth ≤ 1 then .error (.hard (.of .tooDeep)) else members fuel (depth - 1) [] rest
    | _ => plainValue cs

/-- Takes the items of a list up to its closing bracket, behind those that were taken already, the last one first. A
comma may stand in front of the bracket. -/
def items : (fuel depth : Nat) → (done : List Json) → Reading Json
  | 0, _, _, _ => .error (.hard {})
  | fuel + 1, depth, done, cs =>
    let cs := skipLayout (fuel + 1) cs
    match value fuel depth cs with
    | .error ⟨fault, true⟩ => .error ⟨fault, true⟩
    | .error ⟨_, false⟩ =>
      match cs with
      | ']' :: rest => .ok (.arr done.reverse, rest)
      | _ => .error openList
    | .ok (j, rest) =>
      match skipLayout (fuel + 1) rest with
      | ',' :: rest => items fuel depth (j :: done) rest
      | ']' :: rest => .ok (.arr (j :: done).reverse, rest)
      | _ => .error openList

/-- Takes the entries of a table up to its closing brace, behind those that were taken already, the last one first. No
comma may stand in front of the brace. -/
def members : (fuel depth : Nat) → (done : List (Key × Json)) → Reading Json
  | 0, _, _, _ => .error (.hard {})
  | fuel + 1, depth, done, cs =>
    match key (fuel + 1) cs with
    | .error ⟨fault, true⟩ => .error ⟨fault, true⟩
    | .error ⟨_, false⟩ =>
      match tableOf done.reverse, skipBlanks cs with
      | .error e, _ => .error e
      | .ok j, '\x7d' :: rest => if done.isEmpty then .ok (j, rest) else .error openBraces
      | .ok _, _ => .error openBraces
    | .ok (k, rest) =>
      match equals rest with
      | .error e => .error e
      | .ok (_, rest) =>
        match (value fuel depth).sure rest with
        | .error e => .error e
        | .ok (j, rest) =>
          match skipBlanks rest with
          | ',' :: rest => members fuel depth ((k, j) :: done) rest
          | rest =>
            match tableOf ((k, j) :: done).reverse, rest with
            | .error e, _ => .error e
            | .ok j, '\x7d' :: rest => .ok (j, rest)
            | .ok _, _ => .error openBraces

end

/-! ## Documents -/

/-- Takes a heading with its brackets and the end of its line, and opens its table. Gives the document and the names of
the heading. -/
def heading (fuel : Nat) (opening closing : String) (openTable : List String → String → Table → Except Cause Table)
    (t : Table) : Reading (Table × List String) := fun cs => do
  let (_, rest) ← exactly opening cs
  let (k, rest) ← key fuel rest
  let (_, rest) ← (exactly closing).wanting ["`.`", "`" ++ closing ++ "`"] rest
  let (_, rest) ← endStatement rest
  match openTable k.path k.name t with
  | .ok t => .ok ((t, k.names), rest)
  | .error cause => .error (.hard (.of cause))

/-- Takes a heading of a table or of a table in a list. -/
def anyHeading (fuel : Nat) (t : Table) : Reading (Table × List String) :=
  Reading.labelled "table header" fun cs =>
    match cs with
    | [_] => .error (.hard {})
    | '[' :: '[' :: _ => heading fuel "[[" "]]" Table.openNextAt t cs
    | _ => heading fuel "[" "]" Table.openAt t cs

/-- Takes a key with its value and the end of the line, and puts it into the table with a heading. -/
def assignment (fuel : Nat) (heading : List String) (t : Table) : Reading Table := fun cs => do
  let (k, rest) ← key fuel cs
  let (_, rest) ← equals rest
  let (j, rest) ← value fuel nestingLimit rest
  let (_, rest) ← endStatement rest
  match t.define heading k.path k.name j with
  | .ok t => .ok (t, rest)
  | .error cause => .error (.hard (.of cause))

/-- Takes the statements of a document. `above` are the names of the heading that was taken last. -/
def statements : (fuel : Nat) → Table → (above : List String) → List Char → Except Fault Table
  | 0, _, _, _ => .error {}
  | fuel + 1, t, above, cs =>
    match skipBlanks cs with
    | [] => .ok t
    | '[' :: rest =>
      match anyHeading (fuel + 1) t ('[' :: rest) with
      | .error e => .error e.fault
      | .ok ((t, above), rest) => statements fuel t above rest
    | c :: rest =>
      if c == '#' || c == '\n' || c == '\r' then
        match endLine (c :: rest) with
        | .error e => .error e.fault
        | .ok (_, rest) => statements fuel t above rest
      else
        match assignment (fuel + 1) above t (c :: rest) with
        | .error e => .error e.fault
        | .ok (t, rest) => statements fuel t above rest

/-- The value of a document. A byte order mark may stand in front. -/
def read (cs : List Char) : Except Fault Json :=
  let cs := (Text.after [Char.ofNat 0xFEFF] cs).getD cs
  (statements (2 * cs.length + 2) .stated [] cs).map Table.toJson

end LintPlan.Toml
