import Stencil.Number.Text

/-!
# Dates and times

Calendar dates and times of day as they are written.
-/

namespace Stencil

/-- A calendar date. -/
structure Date where
  year : Nat
  month : Nat
  day : Nat
  deriving DecidableEq, Repr

/-- A time of day. -/
structure Time where
  hour : Nat
  minute : Nat
  second : Nat
  microsecond : Nat
  deriving DecidableEq, Repr

/-- A date with dashes; the year has four digits. -/
def Date.text (d : Date) : Text :=
  Text.joinWith ['-'] [Number.padded 4 d.year, Number.padded 2 d.month, Number.padded 2 d.day]

/-- A time with colons; microseconds follow a point unless they are zero. -/
def Time.text (t : Time) : Text :=
  Text.joinWith [':'] (List.map (Number.padded 2) [t.hour, t.minute, t.second]) ++
    if t.microsecond = 0 then [] else '.' :: Number.padded 6 t.microsecond

/-- The parts of a date. -/
def Date.parts (d : Date) : List Nat := [d.year, d.month, d.day]

/-- The parts of a time, without seconds and microseconds where those and all after them are zero.
-/
def Time.parts (t : Time) : List Nat :=
  if t.microsecond ≠ 0 then [t.hour, t.minute, t.second, t.microsecond]
  else if t.second ≠ 0 then [t.hour, t.minute, t.second]
  else [t.hour, t.minute]

/-- The order of two dates. -/
def Date.order (a b : Date) : Ordering := compare a.parts b.parts

/-- The order of two times. -/
def Time.order (a b : Time) : Ordering :=
  compare [a.hour, a.minute, a.second, a.microsecond] [b.hour, b.minute, b.second, b.microsecond]

end Stencil
