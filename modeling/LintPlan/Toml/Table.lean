import LintPlan.Json.Basic
import LintPlan.Toml.Fault
/-!
# Tables under construction

The statements of a TOML document build a table. A table remembers how it came about, because that decides what
may be added to it later: a table with a heading of its own gets no entries through dotted keys, and a table gets
at most one heading.

Main definitions: `Table.define` for `a.b = value`, `Table.openAt` for `[a.b]`, `Table.openNextAt` for `[[a.b]]`,
`Table.member` for an entry of a table in braces.
-/

namespace LintPlan.Toml

/-- How a table came about. -/
inductive Origin where
  /-- Through the heading of a table below it. -/
  | heading
  /-- Through a dotted key. -/
  | dotted
  /-- Through its own heading. -/
  | stated
  deriving DecidableEq, Repr

/-- What may stand under a key while a document is read. -/
inductive Entry where
  | value (j : Json)
  /-- A table. -/
  | table (origin : Origin) (entries : List (String × Entry))
  /-- A list of tables: the finished ones, the last one first, and the entries of the one that may still change. -/
  | tables (earlier : List Json) (entries : List (String × Entry))

mutual

/-- The finished value of an entry. -/
def Entry.toJson : Entry → Json
  | .value j => j
  | .table _ entries => .obj (entriesToJson entries)
  | .tables earlier entries => .arr (.obj (entriesToJson entries) :: earlier).reverse

/-- The finished values of entries. -/
def entriesToJson : List (String × Entry) → List (String × Json)
  | [] => []
  | (key, e) :: rest => (key, e.toJson) :: entriesToJson rest

end

/-- What a value is named. -/
def kindOf : Json → String
  | .str _ => "string"
  | .int _ => "integer"
  | .float _ => "float"
  | .bool _ => "boolean"
  | .arr _ => "array"
  | .obj _ => "inline table"
  | .date => "datetime"
  | .null => "none"

/-- A table while a document is read. -/
structure Table where
  /-- How it came about. -/
  origin : Origin
  entries : List (String × Entry)

namespace Table

/-- A table without entries that has a heading of its own, or is the document. -/
def stated : Table := ⟨.stated, []⟩

/-- The finished value of a table. -/
def toJson (t : Table) : Json := .obj (entriesToJson t.entries)

/-- Replaces the entry of a key, or adds an entry. -/
def putEntry (key : String) (e : Entry) : List (String × Entry) → List (String × Entry)
  | [] => [(key, e)]
  | (k, old) :: rest => if k = key then (key, e) :: rest else (k, old) :: putEntry key e rest

/-- Replaces the entry of a key, or adds an entry. -/
def put (t : Table) (key : String) (e : Entry) : Table := ⟨t.origin, putEntry key e t.entries⟩

/-- Adds an entry at the end; an entry of the key that is there goes away. -/
def putLast (t : Table) (key : String) (e : Entry) : Table :=
  ⟨t.origin, t.entries.filter (fun old => old.1 != key) ++ [(key, e)]⟩

/-- What decides whether a path leads on. -/
structure Passage where
  /-- How tables come about that are not there. -/
  made : Origin
  /-- What is wrong if the last of some keys leads through a value. -/
  blocked : (keys : List String) → Json → Cause

/-- Headings and keys between headings lead through tables only. -/
def Passage.between (made : Origin) : Passage := ⟨made, fun keys j => .noTable keys (kindOf j)⟩

/-- Keys in a table in braces lead through tables that other keys in it made. -/
def Passage.inBraces : Passage where
  made := .dotted
  blocked := fun keys j =>
    match j with
    | .obj _ => .repeatedKey (keys.getLastD "")
    | j => .noTable keys (kindOf j)

/-- Changes the table at the end of a path, of which some keys were passed already. A dotted key does not lead through
a table with a heading of its own. -/
def within (p : Passage) (change : Table → Except Cause Table) : (passed path : List String) → Table →
    Except Cause Table
  | _, [], t => change t
  | passed, key :: path, t =>
    let passed := passed ++ [key]
    match t.entries.lookup key with
    | none => (within p change passed path ⟨p.made, []⟩).map fun s => t.put key (.table s.origin s.entries)
    | some (.value j) => .error (p.blocked passed j)
    | some (.table origin entries) =>
      if p.made = .dotted ∧ origin = .stated then .error (.repeatedKey key)
      else (within p change passed path ⟨origin, entries⟩).map fun s => t.put key (.table s.origin s.entries)
    | some (.tables earlier entries) =>
      (within p change passed path ⟨.stated, entries⟩).map fun s => t.put key (.tables earlier s.entries)

/-- Adds a value under a key that is not there; `repeated` is the cause if it is. -/
def insert (repeated : Cause) (key : String) (j : Json) (t : Table) : Except Cause Table :=
  match t.entries.lookup key with
  | none => .ok (t.put key (.value j))
  | some _ => .error repeated

/-- Adds a value under a key with dots. A path leads only to tables that came about through dotted keys. -/
def add (p : Passage) (repeated : Cause) (path : List String) (key : String) (j : Json) (t : Table) :
    Except Cause Table :=
  within p (fun s =>
    if path.isEmpty || s.origin = .dotted then insert repeated key j s else .error (.repeatedKey key)) [] path t

/-- Adds an entry of a table in braces. -/
def member (path : List String) (key : String) (j : Json) (t : Table) : Except Cause Table :=
  add .inBraces (.repeatedKey key) path key j t

/-- Adds the heading of a table. A table that so far had headings below it only goes to the end. -/
def openAt (path : List String) (key : String) (t : Table) : Except Cause Table :=
  within (.between .heading) (fun s =>
    match s.entries.lookup key with
    | none => .ok (s.putLast key (.table .stated []))
    | some (.table .heading entries) => .ok (s.putLast key (.table .stated entries))
    | some _ => .error (.repeatedKeyIn path key)) [] path t

/-- Adds a table to a list of tables, or starts the list. -/
def openNextAt (path : List String) (key : String) (t : Table) : Except Cause Table :=
  within (.between .heading) (fun s =>
    match s.entries.lookup key with
    | none => .ok (s.put key (.tables [] []))
    | some (.tables earlier entries) =>
      .ok (s.put key (.tables (.obj (entriesToJson entries) :: earlier) []))
    | some _ => .error (.repeatedKeyIn path key)) [] path t

/-- Adds a value under a key with dots in the table that the last heading opened. -/
def define (heading path : List String) (key : String) (j : Json) (t : Table) : Except Cause Table :=
  within (.between .heading) (add (.between .dotted) (.repeatedKeyIn heading key) path key j) [] heading t

end Table

end LintPlan.Toml
