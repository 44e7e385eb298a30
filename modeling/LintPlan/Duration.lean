import LintPlan.Text.Basic
/-!
# Durations

Time limits as people write them: `120`, `120s`, `5m` or `1h`, in whole seconds.
-/

namespace LintPlan.Duration

/-- Why a text is no time limit. -/
inductive Fault where
  /-- It is no number with a unit. -/
  | unreadable (text : String)
  /-- It is no time at all. -/
  | zero
  deriving DecidableEq, Repr

/-- The wording of a fault. -/
def Fault.message : Fault → String
  | .unreadable text => "invalid duration '" ++ text ++ "': expected e.g. 120, 120s or 5m"
  | .zero => "duration must be greater than zero"

/-- The seconds in a unit. -/
def unitSeconds (c : Char) : Option Nat :=
  match c with
  | 's' => some 1
  | 'm' => some 60
  | 'h' => some 3600
  | _ => none

/-- The digits in front of the unit, and the seconds in the unit; without a unit the number counts
seconds. -/
def split (cs : List Char) : List Char × Nat :=
  match cs.getLast? with
  | none => (cs, 1)
  | some c =>
    match unitSeconds c with
    | some seconds => (cs.dropLast, seconds)
    | none => (cs, 1)

/-- The seconds of a number of units, unless they are too many for a number of 64 bits. -/
def seconds? (number unit : Nat) : Option Nat :=
  if number * unit ≤ Text.maxWord64 then some (number * unit) else none

/-- The seconds of a time limit. Without any fault there are still none if they are too many for a number of 64 bits: the
limit is accepted before the unit is applied, and working it out brings the program down. -/
def parse (text : String) : Except Fault (Option Nat) :=
  let cs := Text.trim text.toList
  let parts := split cs
  match Text.readNumeral Text.maxWord64 (Text.trim parts.1) with
  | none => .error (.unreadable (String.ofList cs))
  | some 0 => .error .zero
  | some n => .ok (seconds? n parts.2)

end LintPlan.Duration
