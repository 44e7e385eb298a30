import LintPlan.Json.Number
import LintPlan.Json.Text
/-!
# Reading JSON

A text is read strictly: no comments, no comma at the end of a list, no zeros in front of a number. Lists and objects
nest below a limit. `Json.document` keeps repeated keys, `Json.read` keeps the last value of each key.
-/

namespace LintPlan.Json

/-- A value that is neither a list nor an object; the cursor is behind the blanks in front of it. -/
def readScalar : Reading Json := fun c =>
  match c.rest with
  | [] => .error (c.fault (.cutOff .value))
  | 'n' :: _ => (passWord "null".toList c).map fun c => (.null, c)
  | 't' :: _ => (passWord "true".toList c).map fun c => (.bool true, c)
  | 'f' :: _ => (passWord "false".toList c).map fun c => (.bool false, c)
  | '"' :: _ => (readText c).map fun r => (.str r.1, r.2)
  | x :: _ => if x == '-' || x.isDigit then readNumber c else .error (c.faultAhead .noValue)

mutual

/-- A value. `depth` is one more than the number of levels that may still nest. -/
def readValue : (fuel depth : Nat) → Reading Json
  | 0, _, c => .error (c.fault .noValue)
  | fuel + 1, depth, c =>
    let c := c.skipBlanks
    match c.rest with
    | '[' :: _ =>
      if depth ≤ 1 then .error (c.faultAhead .tooDeep) else readItems fuel (depth - 1) true [] c.advance
    | '\x7b' :: _ =>
      if depth ≤ 1 then .error (c.faultAhead .tooDeep) else readEntries fuel (depth - 1) true [] c.advance
    | _ => readScalar c

/-- The items of a list up to its closing bracket, behind those that are read already, the last one first. -/
def readItems : (fuel depth : Nat) → (first : Bool) → (done : List Json) → Reading Json
  | 0, _, _, _, c => .error (c.fault .noValue)
  | fuel + 1, depth, first, done, c =>
    match nextItem first c with
    | .error fault => .error fault
    | .ok (false, c) => .ok (.arr done.reverse, c.advance)
    | .ok (true, c) =>
      match readValue fuel depth c with
      | .error fault => .error fault
      | .ok (j, c) => readItems fuel depth false (j :: done) c

/-- The entries of an object up to its closing brace, behind those that are read already, the last one first. -/
def readEntries : (fuel depth : Nat) → (first : Bool) → (done : List (String × Json)) → Reading Json
  | 0, _, _, _, c => .error (c.fault .noValue)
  | fuel + 1, depth, first, done, c =>
    match nextEntry first c with
    | .error fault => .error fault
    | .ok (false, c) => .ok (.obj done.reverse, c.advance)
    | .ok (true, c) =>
      match readText c with
      | .error fault => .error fault
      | .ok (key, c) =>
        match passColon c with
        | .error fault => .error fault
        | .ok c =>
          match readValue fuel depth c with
          | .error fault => .error fault
          | .ok (j, c) => readEntries fuel depth false ((key, j) :: done) c

end

/-- How deep lists and objects of a document may nest, plus one. -/
def depthLimit : Nat := 128

/-- The value of a text that holds nothing else, with repeated keys. -/
def document (cs : List Char) : Except Fault Json :=
  match readValue (2 * cs.length + 2) depthLimit (.ofText cs) with
  | .error fault => .error fault
  | .ok (j, c) =>
    let c := c.skipBlanks
    if c.rest.isEmpty then .ok j else .error (c.faultAhead .trailingText)

/-- The value of a text that holds nothing else, with every key once. -/
def read (cs : List Char) : Except Fault Json := (document cs).map distinct

end LintPlan.Json
