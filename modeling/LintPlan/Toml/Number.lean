import LintPlan.Json.Basic
import LintPlan.Toml.Reading
/-!
# Numbers of TOML

Integers of 64 bits with sign in four bases, and floats. Single underscores may stand between digits.
-/

namespace LintPlan.Toml

/-! ## Digits -/

/-- Takes more digits, behind those that were taken already, the last one first. -/
def moreDigits (isDigit : Char → Bool) (done : List Char) : Reading (List Char)
  | '_' :: d :: rest =>
    if isDigit d then moreDigits isDigit (d :: done) rest else .error (.hard { expected := ["digit"] })
  | d :: rest =>
    if d = '_' then .error (.hard { expected := ["digit"] })
    else if isDigit d then moreDigits isDigit (d :: done) rest
    else .ok (done.reverse, d :: rest)
  | [] => .ok (done.reverse, [])

/-- Takes a digit and more of them. -/
def digits (isDigit : Char → Bool) : Reading (List Char) := fun cs => do
  let (d, rest) ← oneOf isDigit cs
  moreDigits isDigit [d] rest

/-- Takes a sign, if there is one: is it a minus? -/
def sign (cs : List Char) : Bool × List Char :=
  match cs with
  | '-' :: rest => (true, rest)
  | '+' :: rest => (false, rest)
  | _ => (false, cs)

/-- Takes a sign, if there is one, and decimal digits: a zero, or digits that do not start with one. -/
def decimal : Reading (Bool × List Char) :=
  Reading.labelled "integer" fun cs =>
    let (negative, cs) := sign cs
    match cs with
    | '0' :: rest => .ok ((negative, ['0']), rest)
    | _ => (digits Char.isDigit).mapped (fun ds => (negative, ds)) cs

/-! ## Integers -/

/-- The integer, if it fits 64 bits with sign. -/
def fitted (i : Int) : Except Refusal Json :=
  if 9223372036854775807 < i then .error (.hard (.of .tooLarge))
  else if i < -9223372036854775808 then .error (.hard (.of .tooSmall))
  else .ok (.int i)

/-- The value of digits in a base. -/
def valueIn (base : Nat) (cs : List Char) : Nat :=
  cs.foldl (fun n c => base * n + (Text.hexValue c).getD 0) 0

/-- Takes the digits of an integer in a base. -/
def integerIn (base : Nat) (label : String) : Reading Json := fun cs => do
  let (ds, rest) ← (Reading.sure (digits fun c => (Text.hexValue c).any (· < base))).labelled label cs
  let j ← fitted (valueIn base ds)
  .ok (j, rest)

/-- Takes an integer. -/
def integer : Reading Json
  | '0' :: 'x' :: rest => integerIn 16 "hexadecimal integer" rest
  | '0' :: 'o' :: rest => integerIn 8 "octal integer" rest
  | '0' :: 'b' :: rest => integerIn 2 "binary integer" rest
  | cs => do
    let ((negative, ds), rest) ← decimal cs
    let n : Int := Text.digitsValue ds
    let j ← fitted (if negative then -n else n)
    .ok (j, rest)

/-! ## Floats -/

/-- Takes the digits behind a point, with the point. -/
def fraction : Reading (List Char) := fun cs => do
  let (_, rest) ← exactly "." cs
  (Reading.sure (digits Char.isDigit)).wanting ["digit"] rest

/-- Takes an exponent with its mark. -/
def exponent : Reading Int := fun cs => do
  let (_, rest) ← oneOf (fun c => c == 'e' || c == 'E') cs
  let (negative, rest) := sign rest
  let (ds, rest) ← Reading.sure (digits Char.isDigit) rest
  let n : Int := Text.digitsValue ds
  .ok (if negative then -n else n, rest)

/-- Takes an exponent, or a fraction that an exponent may follow. -/
def scale : Reading (List Char × Int) := fun cs =>
  match exponent cs with
  | .ok (e, rest) => .ok (([], e), rest)
  | .error ⟨fault, true⟩ => .error ⟨fault, true⟩
  | .error ⟨_, false⟩ => do
    let (fraction, rest) ← fraction cs
    let (exponent, rest) ← Reading.option exponent rest
    .ok ((fraction, exponent.getD 0), rest)

/-- Takes a number with a fraction, an exponent or both. Only one below the range becomes infinite. -/
def scaled : Reading Json := fun cs => do
  let ((negative, whole), rest) ← decimal cs
  let ((fraction, exponent), rest) ← scale rest
  let x := Binary64.ofDecimal negative (Text.digitsValue (whole ++ fraction)) (exponent - fraction.length)
  if x = .infinite false then .error (.hard {}) else .ok (.float x, rest)

/-- Takes the word for an infinite value. -/
def infinity (negative : Bool) : Reading Json := (exactly "inf").mapped fun _ => .float (.infinite negative)

/-- Takes the word for a value that is no number. -/
def noNumber : Reading Json := (exactly "nan").mapped fun _ => .float .notANumber

/-- Takes a float. -/
def float : Reading Json :=
  Reading.labelled "floating-point number" (scaled.orElse fun cs =>
    let (negative, cs) := sign cs
    (infinity negative).orElse noNumber cs)

end LintPlan.Toml
