import LintPlan.Json.Basic
import LintPlan.Text.Basic
/-!
# Values of a document as typed data

Readers from `Json` into the types of the library. A record may be written as an object, or as a list
of its fields in order. What documents of different formats do differently is in `Dialect`; documents
of every format are first read into `Json`.
-/

namespace LintPlan.Json

/-! ## Scalars and lists -/

/-- A text. -/
def toText? : Json → Option String
  | .str s => some s
  | _ => none

/-- A truth value. -/
def toBool? : Json → Option Bool
  | .bool b => some b
  | _ => none

/-- A natural number of at most `limit`. -/
def toNat? (limit : Nat) : Json → Option Nat
  | .int i => if 0 ≤ i ∧ i ≤ limit then some i.toNat else none
  | _ => none

/-- A natural number of 64 bits. -/
def toWord64? (j : Json) : Option Nat := toNat? Text.maxWord64 j

/-- A natural number of 32 bits. -/
def toWord32? (j : Json) : Option Nat := toNat? Text.maxWord32 j

/-- Any number. -/
def toFloat? : Json → Option Binary64
  | .int i => some (Binary64.ofInt i)
  | .float x => some x
  | _ => none

/-- A list of values of one kind. -/
def toList? {α : Type} (f : Json → Option α) : Json → Option (List α)
  | .arr items => items.mapM f
  | _ => none

/-- The value of an entry that may be absent or null. -/
def optional {α : Type} (j : Json) (key : String) (default : α) (f : Json → Option α) : Option α :=
  match j.get? key with
  | none => some default
  | some .null => some default
  | some value => f value

/-- A value or `null`. -/
def toOption? {α : Type} (f : Json → Option α) : Json → Option (Option α)
  | .null => some none
  | j => (f j).map some

/-- Inserts into entries that are sorted by key; an entry with the same key is replaced. -/
def insertSorted {α β : Type} [DecidableEq α] (lt : α → α → Bool) (key : α) (value : β) :
    List (α × β) → List (α × β)
  | [] => [(key, value)]
  | (k, v) :: rest =>
    if k = key then (key, value) :: rest
    else if lt key k then (key, value) :: (k, v) :: rest
    else (k, v) :: insertSorted lt key value rest

/-- Is the first text before the second in the order of code points? -/
def textBefore (a b : String) : Bool := decide (a < b)

/-- An object whose keys are free, sorted by key; the last value of a key counts. -/
def toTextMap? {α : Type} (f : Json → Option α) : Json → Option (List (String × α))
  | .obj entries =>
    entries.foldlM (fun done e => (f e.2).map fun v => insertSorted textBefore e.1 v done) []
  | _ => none

/-! ## Choices and records -/

/-- How a format writes records and choices. -/
structure Dialect where
  /-- May the list form of a record be longer than the record? -/
  surplusItems : Bool
  /-- Is this the empty payload of a choice that is written as a pair of name and payload? -/
  isEmptyPayload : Json → Bool

/-- The rules for JSON texts. -/
def strict : Dialect where
  surplusItems := false
  isEmptyPayload := fun j => match j with
    | .null => true
    | _ => false

/-- One of several names: the name itself, or an object with the name as its only key. -/
def toChoice? {α : Type} (dialect : Dialect) (ofName : String → Option α) : Json → Option α
  | .str s => ofName s
  | .obj [(k, payload)] => if dialect.isEmptyPayload payload then ofName k else none
  | _ => none

/-- What a document has for one field of a record. -/
inductive Slot where
  /-- A value. -/
  | given (j : Json)
  /-- An object without the field. -/
  | absent
  /-- A list that ends before the field. -/
  | cutOff
  deriving Inhabited

/-- A field by its names; the first is the one that the slots go by. -/
abbrev FieldNames := List String

/-- The values of a record's fields by their first names. -/
structure Record where
  /-- The first name of each field with what the document has for it. -/
  slots : List (String × Slot)

/-- Entries of an object under one of the names. -/
def entriesNamed (names : FieldNames) (entries : List (String × Json)) : List Json :=
  (entries.filter fun e => names.contains e.1).map (·.2)

/-- What an object has for a field; twice the same field is refused. -/
def slotOfEntries (entries : List (String × Json)) (names : FieldNames) : Option (String × Slot) :=
  match entriesNamed names entries with
  | [] => some (names.headD "", .absent)
  | [j] => some (names.headD "", .given j)
  | _ => none

/-- Pairs the fields with the items of a list. -/
def slotsOfItems : List FieldNames → List Json → List (String × Slot)
  | [], _ => []
  | names :: fields, [] => (names.headD "", .cutOff) :: slotsOfItems fields []
  | names :: fields, j :: js => (names.headD "", .given j) :: slotsOfItems fields js

/-- A record with the given fields. If it is closed, an object with other keys is refused. -/
def toRecord? (dialect : Dialect) (closed : Bool) (fields : List FieldNames) : Json → Option Record
  | .obj entries =>
    if closed && entries.any (fun e => !fields.any (·.contains e.1)) then none
    else (fields.mapM (slotOfEntries entries)).map Record.mk
  | .arr items =>
    if !dialect.surplusItems && fields.length < items.length then none
    else some ⟨slotsOfItems fields items⟩
  | _ => none

namespace Record

/-- What the document has for a field. -/
def slot (r : Record) (name : String) : Slot := (r.slots.lookup name).getD .absent

/-- A field that has to be there. -/
def required {α : Type} (r : Record) (name : String) (f : Json → Option α) : Option α :=
  match r.slot name with
  | .given j => f j
  | _ => none

/-- A field with a default. -/
def withDefault {α : Type} (r : Record) (name : String) (default : α) (f : Json → Option α) :
    Option α :=
  match r.slot name with
  | .given j => f j
  | _ => some default

end Record

end LintPlan.Json
