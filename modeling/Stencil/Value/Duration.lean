import Stencil.Value.Time

/-!
# Durations

What lies between two dates, counted in microseconds, and the dates that are a duration away. Days
are numbered from the first of January of the year one on.
-/

namespace Stencil

/-- A length of time, which is negative if it goes back. -/
structure Duration where
  microseconds : Int
  deriving DecidableEq, Repr

/-- The microseconds of a day. -/
def dayLength : Nat := 86400000000

/-! ## Days -/

/-- Whether a year has a leap day. -/
def isLeapYear (y : Nat) : Bool := y % 4 == 0 && (y % 100 != 0 || y % 400 == 0)

/-- How many days there are before a year starts. -/
def daysBeforeYear (y : Nat) : Nat :=
  365 * (y - 1) + (y - 1) / 4 - (y - 1) / 100 + (y - 1) / 400

/-- How many days of a year there are before a month starts. -/
def daysBeforeMonth (y m : Nat) : Nat :=
  ([0, 31, 59, 90, 120, 151, 181, 212, 243, 273, 304, 334][m - 1]?).getD 0 +
    if m > 2 ∧ isLeapYear y then 1 else 0

/-- The number of a day. -/
def Date.number (d : Date) : Nat := daysBeforeYear d.year + daysBeforeMonth d.year d.month + d.day

/-- The year that a numbered day is in. Four hundred years have 146097 days, from which the year is
known up to one. -/
def yearOfDay (n : Nat) : Nat :=
  let guess := (n - 1) * 400 / 146097 + 1
  if n ≤ daysBeforeYear guess then guess - 1
  else if daysBeforeYear (guess + 1) < n then guess + 1
  else guess

/-- The day with a number. -/
def Date.ofNumber (n : Nat) : Date :=
  let y := yearOfDay n
  let rest := n - daysBeforeYear y
  let m := ((List.range 12).filter fun k => daysBeforeMonth y (k + 1) < rest).length
  ⟨y, m, rest - daysBeforeMonth y m⟩

/-- The number of the last day of the year 9999, after which there are no dates. -/
def lastDay : Nat := 3652059

/-! ## Times of day -/

/-- The microseconds since the day started. -/
def Time.number (t : Time) : Nat :=
  ((t.hour * 60 + t.minute) * 60 + t.second) * 1000000 + t.microsecond

/-- The time of day so many microseconds after its start. -/
def Time.ofNumber (n : Nat) : Time :=
  let seconds := n / 1000000
  ⟨seconds / 3600, seconds / 60 % 60, seconds % 60, n % 1000000⟩

/-! ## Parts and texts -/

namespace Duration

/-- The whole days of a duration; those of a negative one go down. -/
def days (d : Duration) : Int := Int.fdiv d.microseconds dayLength

/-- What a duration is longer than its whole days. -/
def rest (d : Duration) : Time := Time.ofNumber (Int.fmod d.microseconds dayLength).toNat

/-- The whole seconds that a duration is longer than its whole days. -/
def seconds (d : Duration) : Nat := (Int.fmod d.microseconds dayLength).toNat / 1000000

/-- A duration as its days, unless there are none, and the rest as a time whose hours are not
filled up. -/
def text (d : Duration) : Text :=
  let t := d.rest
  let time := Number.natText 10 t.hour ++ ':' :: Number.padded 2 t.minute ++
    ':' :: Number.padded 2 t.second ++
      if t.microsecond = 0 then [] else '.' :: Number.padded 6 t.microsecond
  if d.days = 0 then time
  else
    Number.intText d.days ++ (if d.days.natAbs = 1 then " day, " else " days, ").toList ++ time

/-- The parts of a duration that are not zero, by their names. -/
def namedParts (d : Duration) : List Text :=
  [("days=", d.days), ("seconds=", (d.seconds : Int)),
    ("microseconds=", (d.rest.microsecond : Int))].filterMap fun (name, n) =>
      if n = 0 then none else some (name.toList ++ Number.intText n)

/-- The longest durations have so many days. -/
def maxDays : Nat := 999999999

end Duration

end Stencil
