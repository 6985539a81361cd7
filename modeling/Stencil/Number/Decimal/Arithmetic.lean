import Stencil.Number.Decimal

/-!
# Arithmetic on decimal numbers

Sums, products and quotients are rounded to the precision, a half going to the even neighbour. A
result that is exact keeps the places of its operands: a sum as many as the operand with more, a
product as many as both together. A whole quotient goes toward zero. Results beyond the greatest
exponent are refused, and those below the least one have fewer digits.
-/

namespace Stencil.Number

/-- Why an operation on decimal numbers has no result. -/
inductive DecimalFault
  | invalid
  /-- Zero divided by zero. -/
  | undefinedQuotient
  /-- A whole quotient with too many digits. -/
  | longQuotient
  | divisionByZero
  | overflow
  deriving DecidableEq, Repr

namespace Decimal

/-- The number of decimal digits of a natural; zero has one. -/
def digitCount (n : Nat) : Nat := (natText 10 n).length

/-- The greatest exponent of the first digit of a result. -/
def greatestExponent : Int := 999999

/-- The exponent of the last digit of the smallest results. -/
def leastExponent : Int := -1000026

/-- A finite number rounded to the precision. Where that would put the last digit below the least
exponent, it is rounded there instead. -/
def rounded (negative : Bool) (c : Nat) (e : Int) : Except DecimalFault Decimal :=
  if c = 0 then .ok (finite negative 0 (max leastExponent (min greatestExponent e)))
  else
    let (c, e) :=
      if e < leastExponent ∧ e + digitCount c < leastExponent + precision then
        (roundDiv c (tens (min (leastExponent - e).toNat (digitCount c + 1))), leastExponent)
      else roundTo precision c e
    if e + digitCount c - 1 > greatestExponent then .error .overflow
    else .ok (finite negative c e)

/-- What an operation gives if an operand is not a number: nothing for a signaling one, else the
first such operand. -/
def nanResult? (x y : Decimal) : Option (Except DecimalFault Decimal) :=
  match x, y with
  | nan _ true _, _ | _, nan _ true _ => some (.error .invalid)
  | nan .., _ => some (.ok x)
  | _, nan .. => some (.ok y)
  | _, _ => none

/-! ## Signs -/

/-- The number with the other sign. -/
def flipped : Decimal → Decimal
  | finite negative c e => finite (!negative) c e
  | infinite negative => infinite (!negative)
  | x => x

/-- A number rounded to the precision. A zero has no sign then. -/
def plus : Decimal → Except DecimalFault Decimal
  | finite negative c e => rounded (negative && c != 0) c e
  | nan _ true _ => .error .invalid
  | x => .ok x

/-- The number with the other sign, rounded to the precision. -/
def minus (x : Decimal) : Except DecimalFault Decimal := x.flipped.plus

/-- The magnitude of a number, rounded to the precision. What is no number is kept. -/
def abs : Decimal → Except DecimalFault Decimal
  | finite _ c e => rounded false c e
  | infinite _ => .ok (infinite false)
  | nan _ true _ => .error .invalid
  | x => .ok x

/-! ## Sums -/

/-- A coefficient with its sign, for an exponent that is no greater than its own. -/
def scaled (negative : Bool) (c : Nat) (e target : Int) : Int :=
  let n : Int := c * tens (e - target).toNat
  if negative then -n else n

/-- A number too small to matter beside another one, as a single digit where it still rounds the
sum in the same direction; any other number as it is. -/
def beside (c : Nat) (e : Int) (small : Nat) (smallExponent : Int) : Nat × Int :=
  let last := e + min (-1) ((digitCount c : Int) - precision - 2)
  if digitCount small + smallExponent - 1 < last then (1, last) else (small, smallExponent)

/-- The sum of two finite numbers. -/
def addFinite (s : Bool) (c : Nat) (e : Int) (t : Bool) (d : Nat) (f : Int) :
    Except DecimalFault Decimal :=
  if c = 0 ∧ d = 0 then rounded (s && t) 0 (min e f)
  else if c = 0 then
    let target := max (min e f) (f - precision - 1)
    rounded t (d * tens (f - target).toNat) target
  else if d = 0 then
    let target := max (min e f) (e - precision - 1)
    rounded s (c * tens (e - target).toNat) target
  else
    let (c', e') := if e < f then beside d f c e else (c, e)
    let (d', f') := if f ≤ e then beside c e d f else (d, f)
    let target := min e' f'
    let total := scaled s c' e' target + scaled t d' f' target
    if total = 0 then rounded false 0 (min e f) else rounded (total < 0) total.natAbs target

/-- The sum of two numbers. -/
def add (x y : Decimal) : Except DecimalFault Decimal :=
  match nanResult? x y with
  | some r => r
  | none =>
    match x, y with
    | finite s c e, finite t d f => addFinite s c e t d f
    | infinite s, infinite t => if s = t then .ok x else .error .invalid
    | infinite _, _ => .ok x
    | _, y => .ok y

/-- The difference of two numbers. -/
def sub (x y : Decimal) : Except DecimalFault Decimal := add x y.flipped

/-! ## Products and quotients -/

/-- The product of two numbers. -/
def mul (x y : Decimal) : Except DecimalFault Decimal :=
  match nanResult? x y with
  | some r => r
  | none =>
    match x, y with
    | finite s c e, finite t d f => rounded (s != t) (c * d) (e + f)
    | infinite s, finite t d _ | finite t d _, infinite s =>
      if d = 0 then .error .invalid else .ok (infinite (s != t))
    | infinite s, infinite t => .ok (infinite (s != t))
    | x, _ => .ok x

/-- A coefficient and exponent with up to `places` zeros at the end left out. -/
def dropZeros : (places c : Nat) → (e : Int) → Nat × Int
  | 0, c, e => (c, e)
  | n + 1, c, e => if c % 10 = 0 then dropZeros n (c / 10) (e + 1) else (c, e)

/-- The quotient of coefficients other than zero. An exact one has as many places as the dividend
has more than the divisor, and further ones only as needed; any other one has more than `digits`
digits and a last one that stands for the rest, so that it can be rounded. -/
def quotient (digits c : Nat) (e : Int) (d : Nat) (f : Int) : Nat × Int :=
  let shift : Int := (digitCount d : Int) - digitCount c + digits + 1
  let num := c * tens shift.toNat
  let den := d * tens (-shift).toNat
  let q := num / den
  let exponent := e - f - shift
  if num % den = 0 then
    dropZeros shift.toNat q exponent
  else (10 * q + 1, exponent - 1)

/-- The quotient of two numbers. -/
def div (x y : Decimal) : Except DecimalFault Decimal :=
  match nanResult? x y with
  | some r => r
  | none =>
    match x, y with
    | finite s c e, finite t d f =>
      if d = 0 then .error (if c = 0 then .undefinedQuotient else .divisionByZero)
      else if c = 0 then rounded (s != t) 0 (e - f)
      else
        let (q, exponent) := quotient precision c e d f
        rounded (s != t) q exponent
    | infinite s, finite t _ _ => .ok (infinite (s != t))
    | finite s _ _, infinite t => .ok (finite (s != t) 0 leastExponent)
    | _, _ => .error .invalid

/-- The whole quotient and the remainder of finite numbers, the divisor not zero. The quotient must
not have more digits than the precision. -/
def divModFinite (s : Bool) (c : Nat) (e : Int) (t : Bool) (d : Nat) (f : Int) :
    Except DecimalFault (Decimal × Decimal) :=
  let target := min e f
  let apart := (digitCount c + e) - (digitCount d + f)
  if c = 0 ∨ apart ≤ -2 then do
    return (finite (s != t) 0 0, ← rounded s (c * tens (e - target).toNat) target)
  else if apart > precision then .error .longQuotient
  else
    let num := c * tens (e - target).toNat
    let den := d * tens (f - target).toNat
    if num / den < tens precision then do
      return (finite (s != t) (num / den) 0, ← rounded s (num % den) target)
    else .error .longQuotient

/-- The whole quotient of two numbers. -/
def floorDiv (x y : Decimal) : Except DecimalFault Decimal :=
  match nanResult? x y with
  | some r => r
  | none =>
    match x, y with
    | finite s c e, finite t d f =>
      if d = 0 then .error (if c = 0 then .undefinedQuotient else .divisionByZero)
      else (divModFinite s c e t d f).map (·.1)
    | finite s _ _, infinite t => .ok (finite (s != t) 0 0)
    | infinite s, finite t _ _ => .ok (infinite (s != t))
    | _, _ => .error .invalid

/-- The remainder of a division of two numbers, with the sign of the first. -/
def mod (x y : Decimal) : Except DecimalFault Decimal :=
  match nanResult? x y with
  | some r => r
  | none =>
    match x, y with
    | finite s c e, finite t d f =>
      if d = 0 then .error (if c = 0 then .undefinedQuotient else .invalid)
      else (divModFinite s c e t d f).map (·.2)
    | finite s c e, infinite _ => rounded s c e
    | _, _ => .error .invalid

end Decimal
end Stencil.Number
