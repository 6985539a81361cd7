import Stencil.Number.Rounding
import Stencil.Value.Convert

/-!
# Arithmetic on dates

Differences of dates, dates a duration away, and sums, multiples and quotients of durations. What is
not a whole number of microseconds is rounded, a half to the even neighbour.
-/

namespace Stencil

open Stencil.Expr (BinaryOp)

/-- The duration of so many microseconds, which must not be too many. -/
def durationResult (n : Int) : Except Fault Value :=
  let d : Duration := ⟨n⟩
  if d.days.natAbs ≤ Duration.maxDays then .ok (.duration d)
  else if d.days.natAbs < Number.twos 31 then
    .error (.overflow (s!"days={d.days}; must have magnitude <= {Duration.maxDays}"))
  else .error (.overflow "Python int too large to convert to C int")

/-- The date with a number. -/
def dateResult (n : Int) : Except Fault Value :=
  if 1 ≤ n ∧ n ≤ lastDay then .ok (.date (Date.ofNumber n.toNat))
  else .error (.overflow "date value out of range")

/-- The microseconds from the day before the first one to a moment. -/
def momentNumber (d : Date) (t : Time) : Int := d.number * dayLength + t.number

/-- The moment with a number. -/
def momentResult (n : Int) : Except Fault Value :=
  let day := Int.fdiv n dayLength
  if 1 ≤ day ∧ day ≤ lastDay then
    .ok (.datetime (Date.ofNumber day.toNat) (Time.ofNumber (Int.fmod n dayLength).toNat))
  else .error (.overflow "date value out of range")

/-- A quotient rounded to the nearest integer, a half to the even one. -/
def nearestInt (a b : Int) : Int :=
  let n : Int := Number.roundDiv a.natAbs b.natAbs
  if (a < 0) != (b < 0) then -n else n

/-- The quotient that a floating-point number is. -/
def floatFraction (x : Float) : Except Fault (Int × Nat) :=
  match Number.parts x with
  | .nan => .error (.value "cannot convert NaN to integer ratio")
  | .infinite _ => .error (.overflow "cannot convert Infinity to integer ratio")
  | .finite negative m q =>
    let (num, den) := Number.binaryRatio m q
    .ok (if negative then -num else num, den)

/-- A duration times a quotient. -/
def scaled (d : Duration) (num den : Int) : Except Fault Value :=
  if den = 0 then .error (.zeroDivision .wholeQuotient)
  else durationResult (nearestInt (d.microseconds * num) den)

/-- An operator on a duration and a number. -/
def durationByNumber? (op : BinaryOp) (d : Duration) (v : Value) : Option (Except Fault Value) :=
  match op, v.int?, v with
  | .mul, some i, _ => some (scaled d i 1)
  | .div, some i, _ => some (scaled d 1 i)
  | .floorDiv, some i, _ =>
    some (if i = 0 then .error (.zeroDivision .wholeQuotient)
      else durationResult (Int.fdiv d.microseconds i))
  | .mul, none, .float x _ => some do
    let (num, den) ← floatFraction x
    scaled d num den
  | .div, none, .float x _ => some do
    let (num, den) ← floatFraction x
    scaled d den num
  | _, _, _ => none

/-- An operator on two durations. -/
def durationBinary? (op : BinaryOp) (a b : Int) : Option (Except Fault Value) :=
  match op with
  | .add => some (durationResult (a + b))
  | .sub => some (durationResult (a - b))
  | .div =>
    some (if b = 0 then .error (.zeroDivision .quotient)
      else
        let x := Number.nearestRatio a.natAbs b.natAbs
        .ok (.float (if (a < 0) != (b < 0) then -x else x) 0))
  | .floorDiv =>
    some (if b = 0 then .error (.zeroDivision .wholeQuotient) else .ok (.int (Int.fdiv a b)))
  | .mod =>
    some (if b = 0 then .error (.zeroDivision .remainder) else durationResult (Int.fmod a b))
  | _ => none

/-- An operator on dates and durations, if they have it. A date moves by whole days only. -/
def calendarBinary? (op : BinaryOp) (a b : Value) : Option (Except Fault Value) :=
  match op, a, b with
  | op, .duration x, .duration y => durationBinary? op x.microseconds y.microseconds
  | .sub, .date x, .date y => some (durationResult ((x.number - y.number : Int) * dayLength))
  | .sub, .datetime x t, .datetime y u =>
    some (durationResult (momentNumber x t - momentNumber y u))
  | .add, .date x, .duration d | .add, .duration d, .date x =>
    some (dateResult (x.number + d.days))
  | .sub, .date x, .duration d => some (dateResult (x.number - d.days))
  | .add, .datetime x t, .duration d | .add, .duration d, .datetime x t =>
    some (momentResult (momentNumber x t + d.microseconds))
  | .sub, .datetime x t, .duration d =>
    some (momentResult (momentNumber x t - d.microseconds))
  | .mul, v, .duration d => durationByNumber? .mul d v
  | op, .duration d, v => durationByNumber? op d v
  | _, _, _ => none

end Stencil
