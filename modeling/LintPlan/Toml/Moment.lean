import LintPlan.Toml.Reading
/-!
# Dates and times of TOML

They are well formed or not, and denote no value here.
-/

namespace LintPlan.Toml

/-- Takes a number of exactly so many digits within bounds. -/
def fixedNumber (width least most : Nat) : Reading Nat := fun cs =>
  let digits := cs.take width
  if digits.length = width ∧ digits.all Char.isDigit then
    let n := Text.digitsValue digits
    if least ≤ n ∧ n ≤ most then .ok (n, cs.drop width) else .error (.mild (.of .outOfRange))
  else .error (.mild {})

/-- The number of days in a month. -/
def daysIn (year month : Nat) : Nat :=
  let leap := year % 4 = 0 ∧ (year % 100 ≠ 0 ∨ year % 400 = 0)
  if month = 2 then (if leap then 29 else 28)
  else if month = 4 ∨ month = 6 ∨ month = 9 ∨ month = 11 then 30
  else 31

/-- Takes a month and a day behind the year. -/
def monthAndDay (year : Nat) : Reading Unit := fun cs => do
  let (month, cs) ← fixedNumber 2 1 12 cs
  let (_, cs) ← exactly "-" cs
  let (_, cs) ← fixedNumber 2 1 (daysIn year month) cs
  .ok ((), cs)

/-- Takes a date. -/
def date : Reading Unit := fun cs => do
  let (year, cs) ← fixedNumber 4 0 9999 cs
  let (_, cs) ← exactly "-" cs
  (monthAndDay year).sure cs

/-- Takes the fraction of a second. -/
def secondFraction : Reading Unit := fun cs => do
  let (_, cs) ← exactly "." cs
  let (_, cs) ← oneOf Char.isDigit cs
  .ok ((), cs.dropWhile Char.isDigit)

/-- Takes minutes and seconds behind the hour. -/
def minutesAndSeconds : Reading Unit := fun cs => do
  let (_, cs) ← fixedNumber 2 0 59 cs
  let (_, cs) ← exactly ":" cs
  let (_, cs) ← fixedNumber 2 0 60 cs
  let (_, cs) ← secondFraction.option cs
  .ok ((), cs)

/-- Takes a time of the day. -/
def timeOfDay : Reading Unit := fun cs => do
  let (_, cs) ← fixedNumber 2 0 23 cs
  let (_, cs) ← exactly ":" cs
  minutesAndSeconds.sure cs

/-- Takes hours and minutes behind a sign. -/
def hoursAndMinutes : Reading Unit := fun cs => do
  let (_, cs) ← fixedNumber 2 0 23 cs
  let (_, cs) ← exactly ":" cs
  let (_, cs) ← fixedNumber 2 0 59 cs
  .ok ((), cs)

/-- Takes an offset from universal time. -/
def offset : Reading Unit :=
  Reading.labelled "time offset" fun cs =>
    match cs with
    | 'Z' :: rest => .ok ((), rest)
    | 'z' :: rest => .ok ((), rest)
    | _ => do
      let (_, cs) ← oneOf (fun c => c == '+' || c == '-') cs
      hoursAndMinutes.sure cs

/-- Takes the time behind a date, with an offset that may be left out. -/
def timeBehindDate : Reading Unit := fun cs => do
  let (_, cs) ← oneOf (fun c => c == 'T' || c == 't' || c == ' ') cs
  let (_, cs) ← timeOfDay cs
  let (_, cs) ← offset.option cs
  .ok ((), cs)

/-- Takes a date, a time, or both with a blank or a `T` in between. Only with a date may a time have an offset. -/
def moment : Reading Unit :=
  Reading.orElse
    (Reading.labelled "date-time" fun cs => do
      let (_, cs) ← date cs
      let (_, cs) ← timeBehindDate.option cs
      .ok ((), cs))
    (timeOfDay.labelled "time")

/-- Is the text a date, a time, or both? -/
def isMoment (cs : List Char) : Bool :=
  match moment cs with
  | .ok (_, rest) => rest.isEmpty
  | .error _ => false

end LintPlan.Toml
