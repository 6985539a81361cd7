import Stencil.Number.Decimal.Arithmetic
import Stencil.Number.Exponential

/-!
# Powers of decimal numbers

A power with a whole exponent is multiplied out, with some digits more than the precision; other
powers are found through logarithms and have all digits of the precision.
-/

namespace Stencil.Number.Decimal

/-! ## Whole exponents -/

/-- The absolute value of a finite number that is an integer. -/
def whole? (c : Nat) (e : Int) : Option Nat :=
  if c % tens (-e).toNat = 0 then some (c / tens (-e).toNat * tens e.toNat) else none

/-- A power of a number that is rounded to so many digits in each step. The bits of the exponent
below the first one are taken in turn: each squares the power, and one that is set multiplies it
once more. -/
def powSteps (digits c : Nat) (e : Int) : (bits : List Bool) → Nat × Int → Nat × Int
  | [], r => r
  | bit :: bits, (d, f) =>
    let (d, f) := roundTo digits (d * d) (f + f)
    powSteps digits c e bits (if bit then roundTo digits (d * c) (f + e) else (d, f))

/-- The bits of a number, the last first. -/
def lowBits : (fuel : Nat) → Nat → List Bool
  | 0, _ => []
  | fuel + 1, n => if n = 0 then [] else (n % 2 == 1) :: lowBits fuel (n / 2)

/-- A power with a natural number other than zero for its exponent. -/
def powWhole (digits c : Nat) (e : Int) (n : Nat) : Nat × Int :=
  powSteps digits c e ((lowBits (n.log2 + 1) n).reverse.drop 1) (c, e)

/-- A power of a finite number other than zero whose exponent is an integer other than zero. That of
a negative exponent is the power of the inverse. -/
def powInt (negative : Bool) (c : Nat) (e : Int) (inverse : Bool) (n : Nat) :
    Except DecimalFault Decimal :=
  let digits := precision + digitCount n + 2
  let (c, e) :=
    if inverse then
      let (q, f) := quotient (digits + 1) 1 0 c e
      let (c, e) := roundTo (digits + 1) q f
      powWhole (digits + 1) c e n
    else powWhole digits c e n
  rounded negative c e

/-! ## Other exponents -/

/-- The logarithm of a positive number in units of which `10 ^ places` make one. -/
def log (places c : Nat) (e : Int) : Int :=
  let unit : Int := tens places
  let size := digitCount c - 1
  Fixed.logDigit unit 4 (c * unit / tens size) + (e + size) * Fixed.log10 unit

/-- A power of a positive number whose exponent is not an integer. -/
def powReal (c : Nat) (e : Int) (inverse : Bool) (d : Nat) (f : Int) :
    Except DecimalFault Decimal :=
  let places := 80 + digitCount d + f.toNat
  let product := log places c e * (if inverse then -(d : Int) else d) * tens f.toNat
  let (x, n) := Fixed.exp (tens places) (Int.fdiv product (tens (-f).toNat))
  let (c, e) := roundTo (precision + 23) x.natAbs (n - places)
  rounded false c e

/-! ## Powers -/

/-- One with so many places. -/
def oneWith (negative : Bool) (places : Nat) : Decimal :=
  finite negative (tens places) (-(places : Int))

/-- The exponent of ten of the first digit of a number. -/
def size (c : Nat) (e : Int) : Int := e + digitCount c - 1

/-- Whether the absolute value of a finite number is one. -/
def isUnit (c : Nat) (e : Int) : Bool := size c e == 0 && c == tens (-e).toNat

/-- Whether a positive number other than one is greater than one. -/
def exceedsOne (c : Nat) (e : Int) : Bool := size c e ≥ 0

/-- A number that the exponent of ten of the logarithm of a positive number other than one is not
below. -/
def logSize (c : Nat) (e : Int) : Int :=
  if size c e ≥ 1 ∨ size c e ≤ -2 then 0
  else
    let apart := (c * tens e.toNat : Int) - tens (-e).toNat
    digitCount apart.natAbs - 2 + min e 0

/-- A power of a finite number other than zero whose exponent is finite and not zero. -/
def powFinite (s : Bool) (c : Nat) (e : Int) (t : Bool) (d : Nat) (f : Int) :
    Except DecimalFault Decimal :=
  let n := if f ≤ precision then whole? d f else none
  let negative := s && (n.map (· % 2 == 1)).getD false
  if isUnit c e then
    match if f > 0 ∨ n.isSome then some t else none with
    | some true => .ok (oneWith negative 0)
    | some false => .ok (oneWith negative (min (precision - 1) ((-e).toNat *
        if f > precision then precision else n.getD 0)))
    | none => .ok (oneWith false (precision - 1))
  else if logSize c e + size d f > 8 then
    if exceedsOne c e != t then .error .overflow else .ok (finite negative 0 leastExponent)
  else match whole? d f with
    | some n => powInt negative c e t n
    | none => powReal c e t d f

/-- Whether a number is an integer. -/
def isWhole : Decimal → Bool
  | finite _ c e => e ≥ 0 || (whole? c e).isSome
  | _ => false

/-- Whether a number is an odd integer. -/
def isOdd : Decimal → Bool
  | finite _ c e => e ≤ 0 && ((whole? c e).map (· % 2 == 1)).getD false
  | _ => false

/-- A power with an infinite exponent: one stays what it is, other numbers vanish or go beyond all
bounds. -/
def powInfinite (c : Nat) (e : Int) (inverse : Bool) : Decimal :=
  if isUnit c e then oneWith false (precision - 1)
  else if exceedsOne c e != inverse then infinite false
  else finite false 0 0

/-- A power of a number. -/
def pow (x y : Decimal) : Except DecimalFault Decimal :=
  match nanResult? x y with
  | some r => r
  | none =>
    let negative := (match x with
      | finite s _ _ | infinite s => s
      | _ => false) && y.isOdd
    match x, y with
    | finite _ 0 _, finite t d _ =>
      if d = 0 then .error .invalid
      else .ok (if t then infinite negative else finite negative 0 0)
    | finite _ 0 _, infinite t => .ok (if t then infinite false else finite false 0 0)
    | finite s c e, finite t d f =>
      if s ∧ !y.isWhole then .error .invalid
      else if d = 0 then .ok (finite false 1 0)
      else powFinite s c e t d f
    | finite s c e, infinite t => if s then .error .invalid else .ok (powInfinite c e t)
    | infinite s, finite t d _ =>
      if s ∧ !y.isWhole then .error .invalid
      else if d = 0 then .ok (finite false 1 0)
      else .ok (if t then finite negative 0 0 else infinite negative)
    | infinite s, infinite t =>
      if s then .error .invalid else .ok (if t then finite false 0 0 else infinite false)
    | _, _ => .error .invalid

end Stencil.Number.Decimal
