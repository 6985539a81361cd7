import Stencil.Number.Float
import Stencil.Text.Basic

/-!
# Numbers as text

The written forms of numbers: integers in a base, floating-point numbers with the fewest digits, and
floating-point numbers with a set number of places in fixed, scientific or general notation.
-/

namespace Stencil.Number

/-! ## Integers -/

/-- The digits of a natural number in a base up to sixteen. -/
def natText (base n : Nat) : Text := Nat.toDigits base n

/-- An integer in decimal. -/
def intText (i : Int) : Text :=
  if i < 0 then '-' :: natText 10 i.natAbs else natText 10 i.natAbs

/-- A sign in front of a text. -/
def withSign (negative : Bool) (s : Text) : Text := if negative then '-' :: s else s

/-! ## Layout -/

/-- `n` zeros. -/
def zeros (n : Nat) : Text := List.replicate n '0'

/-- The digits of `c`, filled up with zeros in front to `width`. -/
def padded (width c : Nat) : Text :=
  let digits := natText 10 c
  zeros (width - digits.length) ++ digits

/-- `c * 10 ^ (-places)` in positional notation; the point is written if places follow it or if
`point` is set. -/
def positional (c places : Nat) (point : Bool) : Text :=
  let digits := padded (places + 1) c
  let whole := digits.take (digits.length - places)
  let fraction := digits.drop (digits.length - places)
  if places = 0 then whole ++ if point then ['.'] else [] else whole ++ '.' :: fraction

/-- An exponent with its mark, its sign and at least two digits. -/
def exponentText (mark : Char) (e : Int) : Text :=
  mark :: (if e < 0 then '-' else '+') :: padded 2 e.natAbs

/-- Digits with a point after the first, if more follow it or if `point` is set. -/
def mantissaText (digits : Text) (point : Bool) : Text :=
  match digits with
  | [] => []
  | [d] => if point then [d, '.'] else [d]
  | d :: rest => d :: '.' :: rest

/-! ## The fewest digits -/

/-- How the shortest form of a floating-point number is laid out: exponents in the half-open range
are written positionally. -/
structure ShortestLayout where
  positionalFrom : Int
  positionalBelow : Int
  mark : Char
  deriving DecidableEq, Repr

/-- Values are positional from `0.0001` up to below `10 ^ 16`. -/
def valueLayout : ShortestLayout := ⟨-4, 16, 'e'⟩

/-- A positive number with the fewest digits that read back. A whole number in positional notation
ends in a point and a zero. -/
def shortestText (layout : ShortestLayout) (m : Nat) (q : Int) : Text :=
  let (c, e) := shortestDigits m q
  let digits := natText 10 c
  let exponent := e + digits.length - 1
  if layout.positionalFrom ≤ exponent ∧ exponent < layout.positionalBelow then
    if e < 0 then positional c e.natAbs false
    else digits ++ zeros e.natAbs ++ ['.', '0']
  else mantissaText digits false ++ exponentText layout.mark exponent

/-- The text of a floating-point value. -/
def floatText (x : Float) : Text :=
  match parts x with
  | .nan => ['n', 'a', 'n']
  | .infinite negative => withSign negative ['i', 'n', 'f']
  | .finite negative 0 _ => withSign negative ['0', '.', '0']
  | .finite negative m q => withSign negative (shortestText valueLayout m q)

/-! ## A set number of places -/

/-- `m * 2 ^ q` times `10 ^ shift`, rounded to the nearest natural. -/
def roundShifted (m : Nat) (q shift : Int) : Nat :=
  let (num, den) := binaryRatio m q
  roundDiv (num * tens shift.toNat) (den * tens (-shift).toNat)

/-- Fixed notation with `places` digits after the point. -/
def fixedText (m : Nat) (q : Int) (places : Nat) (point : Bool) : Text :=
  positional (roundShifted m q places) places point

/-- The coefficient of `count + 1` digits and the exponent of ten of its first digit. -/
def scientificDigits (m : Nat) (q : Int) (count : Nat) : Nat × Int :=
  if m = 0 then (0, 0)
  else
    let (num, den) := binaryRatio m q
    let exponent := decimalPoint num den - 1
    let c := roundShifted m q (count - exponent)
    if c = tens (count + 1) then (c / 10, exponent + 1) else (c, exponent)

/-- Scientific notation with `places` digits after the point. -/
def scientificText (m : Nat) (q : Int) (places : Nat) (point : Bool) : Text :=
  let (c, exponent) := scientificDigits m q places
  mantissaText (padded (places + 1) c) point ++ exponentText 'e' exponent

/-- The text without zeros at the end of its fraction, and without a point that ends it. -/
def dropFraction (s : Text) : Text :=
  if s.contains '.' then
    let kept := (s.reverse.dropWhile (· == '0'))
    (if kept.head? = some '.' then kept.tail else kept).reverse
  else s

/-- General notation with `precision` significant digits: positional for exponents from minus four
up to below the precision, else scientific. Zeros at the end of the fraction are dropped unless
`keepZeros` is set. -/
def generalText (m : Nat) (q : Int) (precision : Nat) (keepZeros : Bool) : Text :=
  let precision := max precision 1
  let (c, exponent) := scientificDigits m q (precision - 1)
  if -4 ≤ exponent ∧ exponent < precision then
    let text := positional c (precision - 1 - exponent).toNat keepZeros
    if keepZeros then text else dropFraction text
  else
    let mantissa := mantissaText (padded precision c) keepZeros
    (if keepZeros then mantissa else dropFraction mantissa) ++ exponentText 'e' exponent

end Stencil.Number
