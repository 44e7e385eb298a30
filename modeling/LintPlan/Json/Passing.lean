import LintPlan.Json.Number
import LintPlan.Json.Text
/-!
# Passing over JSON values

A value that nobody asks for is passed over. Lists and objects in it may nest to any depth, its texts may hold any
surrogates and its numbers may be of any size.
-/

namespace LintPlan.Json

/-- A list or an object that is still open. -/
inductive Enclosure where
  | list | object
  deriving DecidableEq, Repr

namespace Enclosure

/-- The character that closes it. -/
def closing : Enclosure → Char
  | list => ']'
  | object => '\x7d'

/-- What it is in messages. -/
def part : Enclosure → Part
  | list => .list
  | object => .object

/-- The cause of the fault if neither a comma nor the end follows what is in it. -/
def noComma : Enclosure → Cause
  | list => .noListComma
  | object => .noObjectComma

end Enclosure

/-- Where in a value that is passed over a cursor is. -/
inductive PassState where
  /-- In front of a value. -/
  | value
  /-- In front of the first value of what was opened last, or its end. -/
  | opened
  /-- Behind a value. -/
  | followed
  deriving DecidableEq, Repr

/-- Goes over a key and its colon. -/
def passKey (c : Cursor) : Except Fault Cursor :=
  let c := c.skipBlanks
  match c.rest with
  | [] => .error (c.fault (.cutOff .object))
  | '"' :: _ => (passText c).bind passColon
  | _ => .error (c.faultAhead .badKey)

/-- Goes on to the next value of something that is open: in an object, over the key in front of it. -/
def passToValue : Enclosure → Cursor → Except Fault Cursor
  | .list, c => .ok c
  | .object, c => passKey c

/-- Goes over the value at a cursor if it is neither a list nor an object. -/
def passScalar (c : Cursor) : Except Fault Cursor :=
  match c.rest with
  | [] => .error (c.fault (.cutOff .value))
  | 'n' :: _ => passWord "null".toList c
  | 't' :: _ => passWord "true".toList c
  | 'f' :: _ => passWord "false".toList c
  | '"' :: _ => passText c
  | x :: _ => if x == '-' || x.isDigit then passNumber c else .error (c.faultAhead .noValue)

/-- Goes on until everything that is open is closed, the innermost first. -/
def passOpen : (fuel : Nat) → PassState → (stack : List Enclosure) → Cursor → Except Fault Cursor
  | 0, _, _, c => .error (c.fault .noValue)
  | fuel + 1, .value, stack, c =>
    let c := c.skipBlanks
    match c.rest with
    | '[' :: _ => passOpen fuel .opened (.list :: stack) c.advance
    | '\x7b' :: _ => passOpen fuel .opened (.object :: stack) c.advance
    | _ =>
      match passScalar c with
      | .error fault => .error fault
      | .ok c => passOpen fuel .followed stack c
  | _ + 1, .followed, [], c => .ok c
  | _ + 1, .opened, [], c => .ok c
  | fuel + 1, state, top :: stack, c =>
    let c := c.skipBlanks
    match c.rest with
    | [] => .error (c.fault (.cutOff top.part))
    | x :: _ =>
      if x = top.closing then passOpen fuel .followed stack c.advance
      else if state = .followed && x ≠ ',' then .error (c.faultAhead top.noComma)
      else
        match passToValue top (if state = .followed then c.advance else c) with
        | .error fault => .error fault
        | .ok c => passOpen fuel .value (top :: stack) c

/-- Goes over a value. `fuel` is at least twice the number of characters that are left. -/
def passValue (fuel : Nat) (c : Cursor) : Except Fault Cursor := passOpen fuel .value [] c

end LintPlan.Json
