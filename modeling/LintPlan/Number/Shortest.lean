import LintPlan.Text.Basic
import LintPlan.Number.Binary64
/-!
# The shortest decimal of a binary number

Of all decimals that read back as a given number, the ones with the fewest digits are looked for, and
of those the nearest to the number. `Decimal.positional` and `Decimal.brief` are the two ways in which the
library writes the digits found.
-/

namespace LintPlan

/-- `digits · 10 ^ exponent`. -/
structure Decimal where
  /-- The digits, as one number. -/
  digits : Nat
  /-- The place of the last digit. -/
  exponent : Int
  deriving DecidableEq, Repr

namespace Decimal

/-! ## Finding the digits -/

/-- Does `digits · 10 ^ exponent` round to the number with this mantissa and exponent? -/
def readsAs (mantissa : Nat) (binaryExponent : Int) (d : Decimal) : Bool :=
  Binary64.ofDecimal false d.digits d.exponent == .finite false mantissa binaryExponent

/-- The two neighbours of the quotient on the grid of multiples of `10 ^ exponent`, the nearer first;
in a tie the upper one. -/
def neighbours (num den : Nat) (exponent : Int) : List Decimal :=
  let n := if exponent < 0 then num * Nat.pow 10 exponent.natAbs else num
  let d := if exponent < 0 then den else den * Nat.pow 10 exponent.natAbs
  let below : Decimal := ⟨n / d, exponent⟩
  let above : Decimal := ⟨n / d + 1, exponent⟩
  if n % d = 0 then [below] else if 2 * (n % d) < d then [below, above] else [above, below]

/-- The first neighbour that reads back, on the grids from `exponent` downwards, `fuel` of them. -/
def search (mantissa : Nat) (binaryExponent : Int) : (fuel : Nat) → (exponent : Int) → Option Decimal
  | 0, _ => none
  | fuel + 1, exponent =>
    let r := Binary64.ratio mantissa binaryExponent
    match (neighbours r.1 r.2 exponent).find? (readsAs mantissa binaryExponent) with
    | some d => some d
    | none => search mantissa binaryExponent fuel (exponent - 1)

/-- The number of decimal places in front of the point, at most one too many. -/
def placesBefore (mantissa : Nat) (binaryExponent : Int) : Int :=
  let r := Binary64.ratio mantissa binaryExponent
  if r.2 ≤ r.1 then (Nat.toDigits 10 (r.1 / r.2)).length
  else 1 - ((Nat.toDigits 10 (r.2 / r.1)).length : Int)

/-- Digits without zeros at the end. -/
def stripZeros : (fuel : Nat) → Decimal → Decimal
  | 0, d => d
  | fuel + 1, d =>
    if d.digits ≠ 0 ∧ d.digits % 10 = 0 then stripZeros fuel ⟨d.digits / 10, d.exponent + 1⟩ else d

/-- The shortest decimal of `mantissa · 2 ^ binaryExponent`. -/
def shortest (mantissa : Nat) (binaryExponent : Int) : Decimal :=
  if mantissa = 0 then ⟨0, 0⟩
  else
    let top := placesBefore mantissa binaryExponent
    stripZeros 400 ((search mantissa binaryExponent 20 top).getD ⟨0, 0⟩)

/-! ## Writing it -/

/-- Digits and zeros up to the units, then the point and the rest, without an exponent. -/
def positional (d : Decimal) : List Char :=
  let ds := Text.numeral d.digits
  let point : Int := ds.length + d.exponent
  if 0 ≤ d.exponent then ds ++ List.replicate d.exponent.natAbs '0'
  else if 0 < point then ds.take point.toNat ++ '.' :: ds.drop point.toNat
  else '0' :: '.' :: List.replicate point.natAbs '0' ++ ds

/-- One digit, the point and the others, if there are others. -/
def scientificDigits : List Char → List Char
  | [] => []
  | [d] => [d]
  | d :: ds => d :: '.' :: ds

/-- Positional with a point while the point stands at most 16 places to the right of the first digit and at most four zeros
follow it in front of the digits; with an exponent otherwise. -/
def brief (d : Decimal) : List Char :=
  let ds := Text.numeral d.digits
  let point : Int := ds.length + d.exponent
  if 0 ≤ d.exponent ∧ point ≤ 16 then positional d ++ ['.', '0']
  else if -5 < point ∧ point ≤ 16 then positional d
  else
    let e := point - 1
    let sign := if e < 0 then ['-'] else []
    scientificDigits ds ++ 'e' :: sign ++ Text.numeral e.natAbs

end Decimal

namespace Binary64

/-- A sign and the text of the magnitude. -/
def signed (negative : Bool) (cs : List Char) : List Char := if negative then '-' :: cs else cs

/-- The shortest text without an exponent: `1`, `0.1`, `-0.0000001`, `inf`, `NaN`. -/
def display : Binary64 → String
  | .finite s m e => String.ofList (signed s (Decimal.shortest m e).positional)
  | .infinite s => String.ofList (signed s ['i', 'n', 'f'])
  | .notANumber => "NaN"

/-- Two digits after the point, rounded from the exact value, a half to the even digit. -/
def displayHundredths : Binary64 → String
  | .finite s m e =>
    let r := ratio m e
    let n := roundHalfEven (r.1 * 100) r.2
    String.ofList (signed s (Text.numeral (n / 100) ++ '.' :: Text.padded 2 (n % 100)))
  | .infinite s => String.ofList (signed s ['i', 'n', 'f'])
  | .notANumber => "NaN"

end Binary64

/-! ## Reading -/

namespace Binary64

/-- The exponent part of a decimal: a mark, an optional sign and digits, or nothing at all. -/
def readExponent : List Char → Option Int
  | [] => some 0
  | c :: cs =>
    if c != 'e' && c != 'E' then none
    else match cs with
      | '-' :: ds => (Text.readDigits ds).map fun n => -(n : Int)
      | '+' :: ds => (Text.readDigits ds).map fun n => (n : Int)
      | ds => (Text.readDigits ds).map fun n => (n : Int)

/-- Reads digits with an optional point (at least one digit on one side of it) and an optional exponent. -/
def readUnsigned (negative : Bool) (cs : List Char) : Option Binary64 :=
  let whole := cs.takeWhile Char.isDigit
  let rest := cs.dropWhile Char.isDigit
  let fraction := match rest with
    | '.' :: ds => ds.takeWhile Char.isDigit
    | _ => []
  let tail := match rest with
    | '.' :: ds => ds.dropWhile Char.isDigit
    | _ => rest
  if whole.isEmpty && fraction.isEmpty then none
  else (readExponent tail).map fun e =>
    ofDecimal negative (Text.digitsValue (whole ++ fraction)) (e - fraction.length)

/-- Reads a decimal with an optional sign, or the name of a value that is not finite. -/
def read (cs : List Char) : Option Binary64 :=
  let negative := cs.head? == some '-'
  let rest := match cs with
    | '-' :: r => r
    | '+' :: r => r
    | _ => cs
  let word := String.ofList (rest.map Char.toLower)
  if word == "inf" || word == "infinity" then some (.infinite negative)
  else if word == "nan" then some .notANumber
  else readUnsigned negative rest

end Binary64

end LintPlan
