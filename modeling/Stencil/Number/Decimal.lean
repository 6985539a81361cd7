import Stencil.Number.Text
import Stencil.Text.Blank

/-!
# Decimal numbers

Decimal floating-point numbers keep the digits they were written with: a sign, a coefficient and an
exponent of ten. This module reads them, writes them and compares them.
-/

namespace Stencil.Number

/-- A decimal number. A `nan` keeps the digits written after it; a signaling one says so. -/
inductive Decimal
  | finite (negative : Bool) (coefficient : Nat) (exponent : Int)
  | infinite (negative : Bool)
  | nan (negative signaling : Bool) (payload : Text)
  deriving DecidableEq, Repr

namespace Decimal

/-- The value of a list of decimal digits. -/
def digitsValue (s : Text) : Nat := s.foldl (fun n c => 10 * n + (c.toNat - 48)) 0

/-- A text cut after its decimal digits. -/
def spanDigits (s : Text) : Text × Text := (s.takeWhile Char.isDigit, s.dropWhile Char.isDigit)

/-- An optional sign and the text after it. -/
def signOf : Text → Bool × Text
  | '-' :: s => (true, s)
  | '+' :: s => (false, s)
  | s => (false, s)

/-- The digits, the number of places after the point and the exponent of an unsigned numeral. -/
def numeral? (s : Text) : Option (Nat × Int) :=
  let (whole, rest) := spanDigits s
  let (fraction, rest) := match rest with
    | '.' :: rest => spanDigits rest
    | rest => ([], rest)
  if whole = [] ∧ fraction = [] then none
  else
    let c := digitsValue (whole ++ fraction)
    let e : Int := -(fraction.length : Int)
    match rest with
    | [] => some (c, e)
    | mark :: rest =>
      if mark = 'e' ∨ mark = 'E' then
        let (negative, digits) := signOf rest
        if digits ≠ [] ∧ digits.all Char.isDigit then
          let shift : Int := digitsValue digits
          some (c, e + if negative then -shift else shift)
        else none
      else none

/-- A decimal number as written, without regard to the case of letters. -/
def ofText? (s : Text) : Option Decimal :=
  let (negative, body) := signOf (Text.strip s)
  let lower := body.map Char.toLower
  match numeral? body with
  | some (c, e) => some (.finite negative c e)
  | none =>
    if lower = ['i', 'n', 'f'] ∨ lower = "infinity".toList then some (.infinite negative)
    else match Text.after? ['n', 'a', 'n'] lower with
      | some payload =>
        if payload.all Char.isDigit then some (.nan negative false payload) else none
      | none => match Text.after? ['s', 'n', 'a', 'n'] lower with
        | some payload =>
          if payload.all Char.isDigit then some (.nan negative true payload) else none
        | none => none

/-- A finite decimal number keeps its digits in positional notation unless it is too large or too
small for that; else it is in scientific notation with a capital mark. -/
def finiteText (c : Nat) (e : Int) : Text :=
  let digits := natText 10 c
  let point := e + digits.length
  if e ≤ 0 ∧ point > -6 then positional c (-e).toNat false
  else
    let shown := point - 1
    mantissaText digits false ++
      'E' :: (if shown < 0 then '-' else '+') :: natText 10 shown.natAbs

/-- The text of a decimal number. -/
def text : Decimal → Text
  | finite negative c e => withSign negative (finiteText c e)
  | infinite negative => withSign negative "Infinity".toList
  | nan negative signaling payload =>
    withSign negative ((if signaling then "sNaN" else "NaN").toList ++ payload)

/-- Whether a decimal number is zero. -/
def isZero : Decimal → Bool
  | finite _ 0 _ => true
  | _ => false

/-- The numerator and denominator of a finite decimal number. -/
def ratio (negative : Bool) (c : Nat) (e : Int) : Int × Nat :=
  let num : Int := c * tens e.toNat
  (if negative then -num else num, tens (-e).toNat)

/-- The coefficient and exponent rounded to at most `digits` digits, a half to the even neighbour.
-/
def roundTo (digits c : Nat) (e : Int) : Nat × Int :=
  let excess := (natText 10 c).length - digits
  if c = 0 ∨ excess = 0 then (c, e)
  else
    let r := roundDiv c (tens excess)
    if r = tens digits then (r / 10, e + excess + 1) else (r, e + excess)

/-- The precision that arithmetic on decimal numbers rounds to. -/
def precision : Nat := 28

end Decimal
end Stencil.Number
