import LintPlan.Json.Cursor
import LintPlan.Text.Basic
/-!
# Reading JSON numbers

A number without a point and an exponent is an integer if it fits 64 bits. Any other number is read
as a significand of 64 bits, whose digits beyond the last one that fits only move the point, scaled by
powers of ten of at most `10 ^ 308` with one rounding for each.
-/

namespace LintPlan.Json

/-! ## Numerals -/

/-- The parts of a number as it is written. -/
structure NumberText where
  /-- Is there a minus in front? -/
  negative : Bool
  /-- The digits in front of the point. -/
  whole : List Char
  /-- The digits behind the point, if there is one. -/
  fraction : Option (List Char)
  /-- The sign and the digits of the exponent, if there is one. -/
  exponent : Option (Bool × List Char)
  deriving DecidableEq, Repr

/-- Goes over a sign, if one of the given ones is there: the sign and the cursor behind it. -/
def passSign (signs : List Char) (c : Cursor) : Option Char × Cursor :=
  match c.rest with
  | x :: _ => if signs.contains x then (some x, c.advance) else (none, c)
  | [] => (none, c)

/-- The digits from a cursor on; there has to be one. `atEnd` is the cause of the fault if the text ends. -/
def readDigits (atEnd : Cause) (c : Cursor) : Except Fault (List Char × Cursor) :=
  let digits := c.rest.takeWhile Char.isDigit
  if digits.isEmpty then .error (if c.rest.isEmpty then c.fault atEnd else c.faultAhead .badNumber)
  else .ok (digits, ⟨c.rest.dropWhile Char.isDigit, c.position.plus digits.length⟩)

/-- The digits in front of the point: a zero, or digits that do not start with one. -/
def readWhole (atEnd : Cause) (c : Cursor) : Except Fault (List Char × Cursor) :=
  match c.rest with
  | '0' :: next :: _ =>
    if next.isDigit then .error (c.advance.faultAhead .badNumber) else .ok (['0'], c.advance)
  | _ => readDigits atEnd c

/-- The point and the digits behind it, if there is a point. -/
def readFraction (atEnd : Cause) (c : Cursor) : Except Fault (Option (List Char) × Cursor) :=
  match passSign ['.'] c with
  | (none, c) => .ok (none, c)
  | (some _, c) => (readDigits atEnd c).map fun r => (some r.1, r.2)

/-- The exponent with its mark, if there is one. -/
def readExponent (atEnd : Cause) (c : Cursor) : Except Fault (Option (Bool × List Char) × Cursor) :=
  match passSign ['e', 'E'] c with
  | (none, c) => .ok (none, c)
  | (some _, c) =>
    let (sign, c) := passSign ['+', '-'] c
    (readDigits atEnd c).map fun r => (some (sign == some '-', r.1), r.2)

/-- The parts of the number at a cursor. -/
def readNumberText (atEnd : Cause) (c : Cursor) : Except Fault (NumberText × Cursor) := do
  let (sign, c) := passSign ['-'] c
  let (whole, c) ← readWhole atEnd c
  let (fraction, c) ← readFraction atEnd c
  let (exponent, c) ← readExponent atEnd c
  .ok (⟨sign.isSome, whole, fraction, exponent⟩, c)

/-! ## Values -/

/-- A number scaled by a power of ten, in steps of at most `10 ^ 308`. -/
def scaledFloat : (fuel : Nat) → Binary64 → Int → Binary64
  | 0, x, _ => x
  | fuel + 1, x, exponent =>
    if exponent.natAbs ≤ 308 then
      let power := Binary64.ofDecimal false 1 exponent.natAbs
      if 0 ≤ exponent then x.mul power else x.div power
    else if x.isZero then x
    else if 0 ≤ exponent then .infinite false
    else scaledFloat fuel (x.div (Binary64.ofDecimal false 1 308)) (exponent + 308)

/-- The float of a significand and a power of ten, unless it is beyond the range. -/
def floatOf? (negative : Bool) (significand : Nat) (exponent : Int) : Option Json :=
  let x := scaledFloat 8 (Binary64.ofNat significand) exponent
  if x.isFinite then some (.float (if negative then x.neg else x)) else none

/-- The longest front part of the digits whose value fits 64 bits, and the digits after it. -/
def fitting (value : Nat) : List Char → Nat × List Char
  | [] => (value, [])
  | c :: cs =>
    let next := 10 * value + (c.toNat - 48)
    if next ≤ Text.maxWord64 then fitting next cs else (value, c :: cs)

/-- Exponents above this bound leave the range in any case. -/
def exponentLimit : Nat := 2147483647

/-- The digits behind the first one with which a number is above a limit, if it is. -/
def beyondLimit (limit value : Nat) : List Char → Option (List Char)
  | [] => none
  | c :: cs =>
    let next := 10 * value + (c.toNat - 48)
    if limit < next then some cs else beyondLimit limit next cs

/-- The value of a number without a point and an exponent. -/
def NumberText.integer? (negative : Bool) (whole : List Char) : Option Json :=
  let (value, beyond) := fitting 0 whole
  if !beyond.isEmpty then floatOf? negative value beyond.length
  else if !negative then some (.int value)
  else if value = 0 then some (.float (Binary64.zero true))
  else if value ≤ 9223372036854775808 then some (.int (-(value : Int)))
  else floatOf? true value 0

/-- The value of a number with a fraction and an exponent; one of them may be zero. Where a digit in front of the point
does not fit, one behind the point still may. -/
def NumberText.scaled? (negative : Bool) (whole fraction : List Char) (exponent : Int) : Option Json :=
  let (value, beyond) := fitting 0 whole
  let (significand, cutOff) := fitting value fraction
  let places : Int := (beyond.length : Int) - ((fraction.length - cutOff.length : Nat) : Int)
  floatOf? negative significand (places + exponent)

/-- The value of a number. Beyond the range there is none: how many characters at the end do not matter for that? -/
def NumberText.value (t : NumberText) : Except Nat Json :=
  match t.fraction, t.exponent with
  | none, none => (integer? t.negative t.whole).elim (.error 0) .ok
  | fraction, none => (scaled? t.negative t.whole (fraction.getD []) 0).elim (.error 0) .ok
  | fraction, some (below, digits) =>
    let fraction := fraction.getD []
    match beyondLimit exponentLimit 0 digits with
    | none =>
      let size : Int := Text.digitsValue digits
      (scaled? t.negative t.whole fraction (if below then -size else size)).elim (.error 0) .ok
    | some unread =>
      if below || (t.whole ++ fraction).all (· == '0') then .ok (.float (Binary64.zero t.negative))
      else .error unread.length

/-- The number at a cursor. -/
def readNumber : Reading Json := fun c => do
  let (t, c) ← readNumberText (.cutOff .value) c
  match t.value with
  | .ok j => .ok (j, c)
  | .error unread => .error ⟨.outOfRange, ⟨c.position.line, c.position.column - unread⟩⟩

/-- Goes over the number at a cursor, whatever its value. -/
def passNumber (c : Cursor) : Except Fault Cursor := (readNumberText .badNumber c).map (·.2)

end LintPlan.Json
