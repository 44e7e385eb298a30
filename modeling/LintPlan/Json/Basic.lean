import LintPlan.Number.Binary64
/-!
# JSON values

Objects keep their entries in the order of the text. Integers that fit 64 bits are kept apart from
other numbers, because a field that counts something accepts only them.
-/

namespace LintPlan

/-- A JSON value. -/
inductive Json where
  | null
  | bool (b : Bool)
  /-- A number written as an integer, from `-2 ^ 63` to `2 ^ 64 - 1`. -/
  | int (i : Int)
  /-- Any other number. -/
  | float (x : Binary64)
  | str (s : String)
  /-- A list of values. -/
  | arr (items : List Json)
  /-- Entries in order; a key may be repeated. -/
  | obj (entries : List (String × Json))
  /-- A date or a time of another format; nothing more is known of it. -/
  | date
  deriving Repr

namespace Json

instance : Inhabited Json := ⟨.null⟩

/-- A natural number. -/
def nat (n : Nat) : Json := .int n

/-- The value under the first occurrence of a key. -/
def get? (key : String) : Json → Option Json
  | .obj entries => entries.lookup key
  | _ => none

/-- Replaces the value of a key that is present, or appends a new entry. -/
def put (entries : List (String × Json)) (key : String) (value : Json) : List (String × Json) :=
  match entries with
  | [] => [(key, value)]
  | (k, v) :: rest => if k = key then (k, value) :: rest else (k, v) :: put rest key value

mutual

/-- The same value with each key once: the last value of a key, at the place of the first. -/
def distinct : Json → Json
  | .arr items => .arr (distinctItems items)
  | .obj entries => .obj (distinctEntries [] entries)
  | j => j

/-- `distinct` on every item. -/
def distinctItems : List Json → List Json
  | [] => []
  | j :: js => distinct j :: distinctItems js

/-- `distinct` on entries, put one after the other. -/
def distinctEntries (done : List (String × Json)) : List (String × Json) → List (String × Json)
  | [] => done
  | (k, j) :: rest => distinctEntries (put done k (distinct j)) rest

end

end Json

end LintPlan
