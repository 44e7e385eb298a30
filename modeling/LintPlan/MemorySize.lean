import LintPlan.Text.Letters
import LintPlan.Text.Folding
import LintPlan.Number.Shortest
/-!
# Memory sizes

Sizes as people write them, such as `512MB`, `2GB` or `1.5g`, in megabytes. A size is a number with an
optional unit `k`, `m`, `g` or `t`, after which `b` or `ib` may stand; without a unit it counts
megabytes.
-/

namespace LintPlan.MemorySize

/-- The smallest limit, in megabytes, that a container can work with. -/
def least : Nat := 512

/-- The largest limit, in megabytes, that a plan asks for. -/
def greatest : Nat := 8 * 1024

/-- The limit that takes the place of an unusable one. -/
def fallback : String := "2GB"

/-- Megabytes in a unit, as a quotient; the sign for kelvin looks like a unit and is none. -/
def factor? (c : Char) : Option (Nat × Nat) :=
  match c.toLower with
  | 'k' => some (1, 1024)
  | 'm' => some (1, 1)
  | 'g' => some (1024, 1)
  | 't' => some (1024 * 1024, 1)
  | _ => none

/-- A character that stands in the place of a unit. -/
def isUnitMark (c : Char) : Bool := ['k', 'm', 'g', 't'].any (Text.sameLetter · c)

/-- A size taken apart: digits before and after the point, and the unit. -/
structure Parts where
  /-- Digits before the point. -/
  whole : List Char
  /-- Digits after the point. -/
  fraction : List Char
  unit : Option Char

/-- The end of a size: nothing, `b` or `ib`, then blanks only. -/
def isEnd (cs : List Char) : Bool :=
  let rest := match Text.afterWord ['i', 'b'] cs with
    | some rest => rest
    | none => (Text.afterWord ['b'] cs).getD cs
  rest.all Text.isBlank

/-- Takes a size apart. Digits may be of any script here. -/
def parts? (cs : List Char) : Option Parts :=
  let cs := Text.trimStart cs
  let whole := cs.takeWhile Text.isDecimal
  let rest := cs.dropWhile Text.isDecimal
  if whole.isEmpty then none
  else
    let fraction := match rest with
      | '.' :: ds => ds.takeWhile Text.isDecimal
      | _ => []
    let rest := if fraction.isEmpty then rest else rest.drop (1 + fraction.length)
    let rest := Text.trimStart rest
    match rest with
    | c :: tail =>
      if isUnitMark c then if isEnd tail then some ⟨whole, fraction, some c⟩ else none
      else if isEnd rest then some ⟨whole, fraction, none⟩ else none
    | [] => some ⟨whole, fraction, none⟩

/-- The amount in front of the unit; its digits have to be `0` to `9`. -/
def Parts.amount? (p : Parts) : Option Binary64 :=
  if (p.whole ++ p.fraction).all Char.isDigit then
    some (Binary64.ofDecimal false (Text.digitsValue (p.whole ++ p.fraction)) (-(p.fraction.length : Int)))
  else none

/-- A number times a power of two given as a quotient, rounded to the nearest natural number of 64
bits, a half upwards. -/
def scaledMegabytes (amount : Binary64) (factor : Nat × Nat) : Nat :=
  let product := amount.mul (Binary64.ofRatio false factor.1 factor.2)
  product.toNatUpTo Text.maxWord64

/-- The megabytes of a size. -/
def parse? (s : String) : Option Nat := do
  let parts ← parts? s.toList
  let amount ← parts.amount?
  match parts.unit with
  | none => some (scaledMegabytes amount (1, 1))
  | some c => (factor? c).map (scaledMegabytes amount)

/-- A number of megabytes: in gigabytes if it is a whole number of them. -/
def render (megabytes : Nat) : String :=
  if 1024 ≤ megabytes ∧ megabytes % 1024 = 0 then
    String.ofList (Text.numeral (megabytes / 1024) ++ ['G', 'B'])
  else String.ofList (Text.numeral megabytes ++ ['M', 'B'])

/-- The limit as the container engine reads it. -/
def engineLimit? (s : String) : Option String :=
  (parse? s).map fun megabytes => String.ofList (Text.numeral megabytes ++ ['m'])

end LintPlan.MemorySize
