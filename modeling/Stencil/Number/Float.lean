import Stencil.Number.Power
import Stencil.Number.Rounding

/-!
# Binary floating-point numbers

A finite 64-bit floating-point number is `m * 2 ^ q`. This module takes numbers apart (`parts`),
finds the fewest decimal digits that read back as the same number (`shortestDigits`), and builds the
number nearest to a quotient (`nearestRatio`).
-/

namespace Stencil.Number

/-! ## Parts -/

/-- The parts of a floating-point number: a finite one has a sign and the magnitude `m * 2 ^ q`. -/
inductive FloatParts
  | nan
  | infinite (negative : Bool)
  | finite (negative : Bool) (m : Nat) (q : Int)
  deriving DecidableEq, Repr

/-- The parts of a number, read off its bits: a sign bit, eleven exponent bits and fifty-two
fraction bits. -/
def parts (x : Float) : FloatParts :=
  let bits : Nat := x.toBits.toNat
  let negative := bits / twos 63 == 1
  let exponent : Nat := bits / twos 52 % twos 11
  let fraction : Nat := bits % twos 52
  if exponent = 2047 then
    if fraction = 0 then .infinite negative else .nan
  else if exponent = 0 then .finite negative fraction (-1074)
  else .finite negative (twos 52 + fraction) ((exponent : Int) - 1075)

/-- Whether a number is not a number. -/
def isNaN (x : Float) : Bool := parts x == .nan

/-- The numerator and denominator of `m * 2 ^ q`. -/
def binaryRatio (m : Nat) (q : Int) : Nat × Nat := (m * twos q.toNat, twos (-q).toNat)

/-- The integer next to a finite number in the direction of zero. -/
def truncate (m : Nat) (q : Int) (negative : Bool) : Int :=
  let (num, den) := binaryRatio m q
  if negative then -(num / den : Nat) else (num / den : Nat)

/-! ## The number nearest to a quotient -/

/-- The floating-point number nearest to `num / den`. The quotient is cut after sixty-six or more
bits, with one more bit to tell whether anything was cut off. -/
def nearestRatio (num den : Nat) : Float :=
  let shift := 66 + den.log2 - num.log2
  let scaled := num * twos shift
  let kept := 2 * (scaled / den) + if scaled % den = 0 then 0 else 1
  Float.ofScientific (kept * Nat.pow 5 (shift + 1)) true (shift + 1)

/-- The floating-point number nearest to `digits * 10 ^ exponent`. All numbers of the size of
`10 ^ 310` are beyond the largest one, and all below `10 ^ (-400)` are nearest to zero. -/
def nearestDecimal (digits : Nat) (exponent : Int) : Float :=
  let size : Int := exponent + (Nat.toDigits 10 digits).length
  if digits = 0 ∨ size < -400 then 0.0
  else if size > 310 then 1.0 / 0.0
  else if exponent < 0 then Float.ofScientific digits true exponent.natAbs
  else Float.ofScientific digits false exponent.natAbs

/-! ## The fewest digits that read back -/

/-- The least `k` at or above the given one with `num / den < 10 ^ k`, within `fuel` steps. -/
def decimalPointFrom (num den : Nat) : (fuel : Nat) → Int → Int
  | 0, k => k
  | fuel + 1, k =>
    if num * tens (-k).toNat < den * tens k.toNat then k else decimalPointFrom num den fuel (k + 1)

/-- The `k` with `10 ^ (k - 1) ≤ num / den < 10 ^ k`, for a quotient that is not zero: an estimate
from below by the binary logarithms, then at most three steps up. -/
def decimalPoint (num den : Nat) : Int :=
  let bits : Int := (num.log2 : Int) - den.log2 - 1
  decimalPointFrom num den 4 (bits * 30103 / 100000)

/-- Whether `a * 10 ^ e` is below `b * 2 ^ q`, or equal to it if `orEqual` is set. -/
def decimalBelow (orEqual : Bool) (a : Nat) (e : Int) (b : Nat) (q : Int) : Bool :=
  let left := a * tens e.toNat * twos (-q).toNat
  let right := b * twos q.toNat * tens (-e).toNat
  if orEqual then left ≤ right else left < right

/-- Whether `c * 10 ^ e` rounds to `m * 2 ^ q`: it lies between the midpoints to the neighbouring
floating-point numbers, which count if `m` is even. The neighbour below a power of two is nearer. -/
def readsBack (m : Nat) (q : Int) (c : Nat) (e : Int) : Bool :=
  let even := m % 2 == 0
  let low := 4 * m - if m = twos 52 ∧ q > -1074 then 1 else 2
  !decimalBelow (!even) c e low (q - 2) && decimalBelow even c e (4 * m + 2) (q - 2)

/-- The coefficient on the grid of `10 ^ e` that rounds to `m * 2 ^ q` and is nearest to it, an even
one on a tie. -/
def gridDigits? (m : Nat) (q e : Int) : Option Nat :=
  let (num, den) := binaryRatio m q
  let num := num * tens (-e).toNat
  let den := den * tens e.toNat
  let below := num / den
  match readsBack m q below e, readsBack m q (below + 1) e with
  | true, true => some (roundDiv num den)
  | true, false => some below
  | false, true => some (below + 1)
  | false, false => none

/-- A coefficient without zeros at its end, with the exponent of ten that they are worth. -/
def dropZeros : (fuel : Nat) → Nat → Int → Nat × Int
  | 0, c, e => (c, e)
  | fuel + 1, c, e => if c % 10 = 0 ∧ c ≠ 0 then dropZeros fuel (c / 10) (e + 1) else (c, e)

/-- The coarsest grid from `count` digits on that has a coefficient for `m * 2 ^ q`. Seventeen
digits always have one; the exact value stands in after `fuel` grids without. -/
def shortestFrom (m : Nat) (q point : Int) : (fuel : Nat) → (count : Nat) → Nat × Int
  | 0, _ =>
    let (num, den) := binaryRatio m q
    (num * Nat.pow 5 (-q).toNat, if den = 1 then 0 else q)
  | fuel + 1, count =>
    match gridDigits? m q (point - count) with
    | some c => (c, point - count)
    | none => shortestFrom m q point fuel (count + 1)

/-- The fewest digits that read back as the positive number `m * 2 ^ q`, as a coefficient and an
exponent of ten; of several the nearest to it. -/
def shortestDigits (m : Nat) (q : Int) : Nat × Int :=
  let (num, den) := binaryRatio m q
  let (c, e) := shortestFrom m q (decimalPoint num den) 17 1
  dropZeros 20 c e

end Stencil.Number
