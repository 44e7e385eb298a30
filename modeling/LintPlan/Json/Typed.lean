import LintPlan.Json.Passing
import LintPlan.Json.Reader
/-!
# Reading typed data from JSON texts

Readers that take typed data from a text as they go, so that a fault shows where the text stops to be what is wanted,
be it JSON up to there or not. A record may be written as an object, whose other keys are passed over, or as a list of
its fields in order.
-/

namespace LintPlan.Json

namespace Reading

/-- The fault of a value of another type than the one that is wanted. The cursor is behind the blanks in front of it; a
list or an object shows at its start, any other value at its end. -/
def mismatch (wanted : String) (c : Cursor) : Fault :=
  match c.rest with
  | '[' :: _ => c.fault (.wrongType .list wanted)
  | '\x7b' :: _ => c.fault (.wrongType .object wanted)
  | _ =>
    match readScalar c with
    | .error fault => fault
    | .ok (j, c) => c.fault (.wrongType (.ofJson j) wanted)

/-! ## Scalars -/

/-- A text. -/
def text : Reading String := fun c =>
  let c := c.skipBlanks
  match c.rest with
  | '"' :: _ => readText c
  | _ => .error (mismatch "a string" c)

/-- A truth value. -/
def bool : Reading Bool := fun c =>
  let c := c.skipBlanks
  match c.rest with
  | 't' :: _ => (passWord "true".toList c).map fun c => (true, c)
  | 'f' :: _ => (passWord "false".toList c).map fun c => (false, c)
  | _ => .error (mismatch "a boolean" c)

/-- A natural number of at most `limit`, under its name. -/
def nat (limit : Nat) (wanted : String) : Reading Nat := fun c =>
  let c := c.skipBlanks
  match readScalar c with
  | .ok (.int i, c) =>
    if 0 ≤ i ∧ i ≤ limit then .ok (i.toNat, c) else .error (c.fault (.wrongValue (.integer i) wanted))
  | _ => .error (mismatch wanted c)

/-- A count of 64 bits. -/
def count : Reading Nat := nat Text.maxWord64 "usize"

/-- A number of 32 bits. -/
def word32 : Reading Nat := nat Text.maxWord32 "u32"

/-- Any number. -/
def float : Reading Binary64 := fun c =>
  let c := c.skipBlanks
  match readScalar c with
  | .ok (.int i, c) => .ok (Binary64.ofInt i, c)
  | .ok (.float x, c) => .ok (x, c)
  | _ => .error (mismatch "f64" c)

/-! ## Options and lists -/

/-- A value or `null`. -/
def option {α : Type} (r : Reading α) : Reading (Option α) := fun c =>
  let c := c.skipBlanks
  match c.rest with
  | 'n' :: _ => (passWord "null".toList c).map fun c => (none, c)
  | _ => (r c).map fun v => (some v.1, v.2)

/-- The items of a list up to its closing bracket, behind those that are read already, the last one first. -/
def items {α : Type} (r : Reading α) : (fuel : Nat) → (first : Bool) → (done : List α) → Reading (List α)
  | 0, _, _, c => .error (c.fault .noValue)
  | fuel + 1, first, done, c =>
    match nextItem first c with
    | .error fault => .error fault
    | .ok (false, c) => .ok (done.reverse, c.advance)
    | .ok (true, c) =>
      match r c with
      | .error fault => .error fault
      | .ok (v, c) => items r fuel false (v :: done) c

/-- A list. `fuel` is at least the number of characters that are left. -/
def list {α : Type} (fuel : Nat) (r : Reading α) : Reading (List α) := fun c =>
  let c := c.skipBlanks
  match c.rest with
  | '[' :: _ => items r fuel true [] c.advance
  | _ => .error (mismatch "a sequence" c)

/-! ## Records -/

/-- A field of a record that is being put together. -/
structure Field (σ : Type) where
  /-- The name of the field. -/
  name : String
  /-- Other names for it. -/
  aliases : List String
  /-- Has the field to be there? -/
  required : Bool
  /-- Reads the field into the record. -/
  read : Reading (σ → σ)

/-- A field with a default, which the record has from the start. -/
def Field.optional {σ α : Type} (name : String) (aliases : List String) (r : Reading α) (set : σ → α → σ) :
    Field σ :=
  ⟨name, aliases, false, fun c => (r c).map fun v => (fun s => set s v.1, v.2)⟩

/-- A field that has to be there. -/
def Field.needed {σ α : Type} (name : String) (aliases : List String) (r : Reading α) (set : σ → α → σ) :
    Field σ :=
  { Field.optional name aliases r set with required := true }

variable {σ : Type}

/-- The field that a key stands for. -/
def fieldOf? (fields : List (Field σ)) (key : String) : Option (Field σ) :=
  fields.find? fun f => f.name == key || f.aliases.contains key

/-- The fault of a field that is there twice. It shows behind the blanks behind its key, and behind the brace if one
stands there. -/
def repeated (name : String) (c : Cursor) : Fault :=
  let c := c.skipBlanks
  match c.rest with
  | '\x7d' :: _ => c.advance.fault (.repeatedField name)
  | _ => c.fault (.repeatedField name)

/-- The entries of an object up to its closing brace. `seen` are the names of the fields that were there already. -/
def entries (fields : List (Field σ)) : (fuel : Nat) → (first : Bool) → (seen : List String) → σ → Reading σ
  | 0, _, _, _, c => .error (c.fault .noValue)
  | fuel + 1, first, seen, s, c =>
    match nextEntry first c with
    | .error fault => .error fault
    | .ok (false, c) =>
      match fields.find? fun f => f.required && !seen.contains f.name with
      | some f => .error (c.advance.fault (.missingField f.name))
      | none => .ok (s, c.advance)
    | .ok (true, c) =>
      match readText c with
      | .error fault => .error fault
      | .ok (key, c) =>
        match fieldOf? fields key with
        | none =>
          match (passColon c).bind (passValue fuel) with
          | .error fault => .error fault
          | .ok c => entries fields fuel false seen s c
        | some f =>
          if seen.contains f.name then .error (repeated f.name c)
          else
            match (passColon c).bind f.read with
            | .error fault => .error fault
            | .ok (set, c) => entries fields fuel false (f.name :: seen) (set s) c

/-- The end of a list that has all its fields. -/
def endOfFields (s : σ) : Reading σ := fun c =>
  let c := c.skipBlanks
  match c.rest with
  | [] => .error (c.fault (.cutOff .list))
  | ']' :: _ => .ok (s, c.advance)
  | ',' :: _ =>
    let c := c.advance.skipBlanks
    .error (c.faultAhead (if c.rest.head? == some ']' then .trailingComma else .trailingText))
  | _ => .error (c.faultAhead .trailingText)

/-- The fields of a record in a list up to its closing bracket. A list that ends early has as many items as fields were
read before. -/
def inOrder (wanted : String) : List (Field σ) → (read : Nat) → (first : Bool) → σ → Reading σ
  | [], _, _, s, c => endOfFields s c
  | f :: fields, read, first, s, c =>
    match nextItem first c with
    | .error fault => .error fault
    | .ok (false, c) =>
      if f.required then .error (c.advance.fault (.wrongLength read wanted))
      else inOrder wanted fields (read + 1) first s c
    | .ok (true, c) =>
      match f.read c with
      | .error fault => .error fault
      | .ok (set, c) => inOrder wanted fields (read + 1) false (set s) c

/-- The words for a record in a list. -/
def sized (wanted : String) (fields : Nat) : String :=
  wanted ++ " with " ++ toString fields ++ (if fields = 1 then " element" else " elements")

/-- A record under its name. `fuel` is at least twice the number of characters that are left. -/
def record (fuel : Nat) (wanted : String) (fields : List (Field σ)) (s : σ) : Reading σ := fun c =>
  let c := c.skipBlanks
  match c.rest with
  | '[' :: _ => inOrder (sized wanted fields.length) fields 0 true s c.advance
  | '\x7b' :: _ => entries fields fuel true [] s c.advance
  | _ => .error (mismatch wanted c)

end Reading

end LintPlan.Json
