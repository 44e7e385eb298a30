/-!
# Numbers of the binary format with 64 bits

A finite number is `± mantissa · 2 ^ exponent` with a mantissa of at most 53 bits and an exponent
from -1074 to 971. Every operation is exact integer arithmetic followed by one rounding, to the
nearest number and to the even mantissa in a tie, so that equal numbers are equal values here and
every comparison is decidable.
-/

namespace LintPlan

/-- A number of the binary format with 64 bits. -/
inductive Binary64 where
  /-- `± mantissa · 2 ^ exponent`; the mantissa is as large as the format allows. -/
  | finite (negative : Bool) (mantissa : Nat) (exponent : Int)
  /-- Beyond the largest finite number. -/
  | infinite (negative : Bool)
  /-- The result of an operation without a result. -/
  | notANumber
  deriving DecidableEq, Repr

namespace Binary64

/-! ## Rounding -/

/-- The least exponent. -/
def minExponent : Int := -1074

/-- The largest exponent. -/
def maxExponent : Int := 971

/-- The number zero with a sign. -/
def zero (negative : Bool) : Binary64 := .finite negative 0 minExponent

/-- `num / den` as `num' / den'` scaled by `2 ^ (-exponent)`. -/
def scaled (num den : Nat) (exponent : Int) : Nat × Nat :=
  if exponent < 0 then (num * Nat.pow 2 exponent.natAbs, den) else (num, den * Nat.pow 2 exponent.natAbs)

/-- The quotient rounded to the nearest integer, a half to the even one. -/
def roundHalfEven (num den : Nat) : Nat :=
  let quotient := num / den
  let rest := num % den
  if 2 * rest < den then quotient
  else if den < 2 * rest then quotient + 1
  else if quotient % 2 = 0 then quotient else quotient + 1

/-- The quotient rounded to the nearest integer, a half upwards. -/
def roundHalfUp (num den : Nat) : Nat := (2 * num + den) / (2 * den)

/-- The largest `k` with `2 ^ k ≤ num / den`, for positive operands. -/
def binaryOrder (num den : Nat) : Int :=
  let estimate : Int := (Nat.log2 num : Int) - (Nat.log2 den : Int)
  let parts := scaled num den estimate
  if parts.2 ≤ parts.1 then estimate else estimate - 1

/-- The exponent at which a number of this binary order keeps 53 bits, or the least one. -/
def exponentFor (order : Int) : Int := max (order - 52) minExponent

/-- A mantissa that rounding carried to 54 bits, to `2 ^ 53`, goes back to 53, to `2 ^ 52`; too large an exponent is
infinity. -/
def normalized (negative : Bool) (mantissa : Nat) (exponent : Int) : Binary64 :=
  let carried := mantissa = 9007199254740992
  let exponent' := if carried then exponent + 1 else exponent
  if maxExponent < exponent' then .infinite negative
  else .finite negative (if carried then 4503599627370496 else mantissa) exponent'

/-- The number nearest to `± num / den`, for a positive `den`. -/
def ofRatio (negative : Bool) (num den : Nat) : Binary64 :=
  if num = 0 then zero negative
  else
    let exponent := exponentFor (binaryOrder num den)
    let parts := scaled num den exponent
    normalized negative (roundHalfEven parts.1 parts.2) exponent

/-- The number nearest to an integer. -/
def ofInt (i : Int) : Binary64 := ofRatio (decide (i < 0)) i.natAbs 1

/-- The number nearest to a natural number. -/
def ofNat (n : Nat) : Binary64 := ofRatio false n 1

/-- The number nearest to `± digits · 10 ^ exponent`. Beyond 400 places on either side the answer is
infinity or zero, whatever the digits. -/
def ofDecimal (negative : Bool) (digits : Nat) (exponent : Int) : Binary64 :=
  let places : Int := (Nat.toDigits 10 digits).length
  if digits = 0 || places + exponent < -400 then zero negative
  else if 400 < places + exponent then .infinite negative
  else if exponent < 0 then ofRatio negative digits (Nat.pow 10 exponent.natAbs)
  else ofRatio negative (digits * Nat.pow 10 exponent.natAbs) 1

/-! ## Arithmetic and order -/

/-- The magnitude of a finite number as a quotient. -/
def ratio (mantissa : Nat) (exponent : Int) : Nat × Nat :=
  if exponent < 0 then (mantissa, Nat.pow 2 exponent.natAbs) else (mantissa * Nat.pow 2 exponent.natAbs, 1)

/-- Product of two numbers. -/
def mul : Binary64 → Binary64 → Binary64
  | .notANumber, _ => .notANumber
  | _, .notANumber => .notANumber
  | .finite s m e, .finite t n f =>
    let a := ratio m e
    let b := ratio n f
    ofRatio (s != t) (a.1 * b.1) (a.2 * b.2)
  | .infinite s, .finite t n _ => if n = 0 then .notANumber else .infinite (s != t)
  | .finite s m _, .infinite t => if m = 0 then .notANumber else .infinite (s != t)
  | .infinite s, .infinite t => .infinite (s != t)

/-- Quotient by a finite number other than zero. -/
def div : Binary64 → Binary64 → Binary64
  | .finite s m e, .finite t n f =>
    let a := ratio m e
    let b := ratio n f
    if b.1 = 0 then .notANumber else ofRatio (s != t) (a.1 * b.2) (a.2 * b.1)
  | .infinite s, .finite t _ _ => .infinite (s != t)
  | .finite s _ _, .infinite t => zero (s != t)
  | _, _ => .notANumber

/-- The number with the other sign. -/
def neg : Binary64 → Binary64
  | .finite s m e => .finite (!s) m e
  | .infinite s => .infinite (!s)
  | .notANumber => .notANumber

/-- Numerator (with sign) over a common denominator `2 ^ 1074`. -/
def units (negative : Bool) (mantissa : Nat) (exponent : Int) : Int :=
  let size : Int := (mantissa * Nat.pow 2 (exponent - minExponent).toNat : Nat)
  if negative then -size else size

/-- Is the first number at most the second? False if one of them is not a number. -/
def le : Binary64 → Binary64 → Bool
  | .notANumber, _ => false
  | _, .notANumber => false
  | .finite s m e, .finite t n f => units s m e ≤ units t n f
  | .infinite s, .infinite t => s || !t
  | .infinite s, .finite .. => s
  | .finite .., .infinite t => !t

/-- Is the first number less than the second? False if one of them is not a number. -/
def lt : Binary64 → Binary64 → Bool
  | .notANumber, _ => false
  | _, .notANumber => false
  | .finite s m e, .finite t n f => units s m e < units t n f
  | .infinite s, .infinite t => s && !t
  | .infinite s, .finite .. => s
  | .finite .., .infinite t => !t

/-- Is this one of the two zeros? -/
def isZero : Binary64 → Bool
  | .finite _ m _ => m == 0
  | _ => false

/-- Is the number finite? -/
def isFinite : Binary64 → Bool
  | .finite .. => true
  | _ => false

/-- The nearest natural number up to `limit`, a half away from zero. Numbers below zero and values
that are not numbers give 0, larger ones the limit. -/
def toNatUpTo (limit : Nat) : Binary64 → Nat
  | .finite negative m e =>
    let r := ratio m e
    if negative then 0 else min limit (roundHalfUp r.1 r.2)
  | .infinite negative => if negative then 0 else limit
  | .notANumber => 0

/-- The integer part, toward zero, within the integers of 64 bits with sign. -/
def toInt64 : Binary64 → Int
  | .finite negative m e =>
    let r := ratio m e
    let size := r.1 / r.2
    if negative then -(min size 9223372036854775808 : Nat) else (min size 9223372036854775807 : Nat)
  | .infinite negative => if negative then -9223372036854775808 else 9223372036854775807
  | .notANumber => 0

/-- Is the number an integer? -/
def isInteger : Binary64 → Bool
  | .finite _ m e => let r := ratio m e; r.1 % r.2 == 0
  | _ => false

end Binary64

end LintPlan
