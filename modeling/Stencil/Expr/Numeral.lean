import Stencil.Expr.Basic
import Stencil.Number.Decimal

/-!
# Numerals

The written numbers of the expression language: whole numbers in decimal or with a base of two,
eight or sixteen, floating-point numbers, and imaginary numbers. Single underscores may stand
between digits.
-/

namespace Stencil.Expr

/-- The value of a digit in a base up to sixteen. -/
def baseDigit? (base : Nat) (c : Char) : Option Nat :=
  let value :=
    if c.isDigit then c.toNat - 48
    else if 'a' ≤ c ∧ c ≤ 'f' then c.toNat - 87
    else if 'A' ≤ c ∧ c ≤ 'F' then c.toNat - 55
    else base
  if value < base then some value else none

/-- Whether a character is a digit in a base. -/
def isBaseDigit (base : Nat) (c : Char) : Bool := (baseDigit? base c).isSome

/-- The digits that a text starts with, single underscores between them included. -/
def digitRun (base : Nat) : Text → Text
  | [] => []
  | [c] => if isBaseDigit base c then [c] else []
  | c :: d :: s =>
    if isBaseDigit base c then
      if d = '_' then
        match s with
        | e :: _ => if isBaseDigit base e then c :: d :: digitRun base s else [c]
        | [] => [c]
      else c :: digitRun base (d :: s)
    else []

/-- The exponent that a text starts with: a mark, perhaps a sign, and digits. -/
def exponentRun : Text → Text
  | mark :: s =>
    if mark = 'e' ∨ mark = 'E' then
      match s with
      | [] => []
      | c :: rest =>
        if c = '+' ∨ c = '-' then
          match digitRun 10 rest with
          | [] => []
          | digits => mark :: c :: digits
        else
          match digitRun 10 (c :: rest) with
          | [] => []
          | digits => mark :: digits
    else []
  | [] => []

/-- The fraction that a text starts with: a point and any digits. -/
def fractionRun : Text → Text
  | '.' :: s => '.' :: digitRun 10 s
  | _ => []

/-- The mark of an imaginary number, if a text starts with it. -/
def imaginaryRun : Text → Text
  | c :: _ => if c = 'j' ∨ c = 'J' then [c] else []
  | [] => []

/-- The decimal numeral that a text starts with. -/
def decimalRun (s : Text) : Text :=
  let whole := digitRun 10 s
  let fraction := fractionRun (s.drop whole.length)
  let exponent := exponentRun (s.drop (whole.length + fraction.length))
  let number := whole ++ fraction ++ exponent
  number ++ imaginaryRun (s.drop number.length)

/-- The base that a letter after a zero stands for. -/
def baseOf? (c : Char) : Option Nat :=
  match c.toLower with
  | 'x' => some 16
  | 'o' => some 8
  | 'b' => some 2
  | _ => none

/-- The numeral that a text starts with. -/
def numeralRun : Text → Text
  | '0' :: mark :: s =>
    match baseOf? mark with
    | some base => '0' :: mark :: match s with
      | '_' :: s => '_' :: digitRun base s
      | s => digitRun base s
    | none => decimalRun ('0' :: mark :: s)
  | s => decimalRun s

/-- The value of digits in a base. -/
def baseValue (base : Nat) (digits : Text) : Nat :=
  digits.foldl (fun n c => base * n + (baseDigit? base c).getD 0) 0

/-- The most digits that a whole number in decimal may be written with. -/
def maxDigits : Nat := 4300

/-- A whole number in decimal, which does not start with a zero unless it is zero. -/
def wholeValue? (digits : Text) : Option Nat :=
  if (digits.head? = some '0' ∧ digits.any (· ≠ '0')) ∨ digits.length > maxDigits then none
  else some (Number.Decimal.digitsValue digits)

/-- The floating-point number that a numeral without underscores spells. -/
def floatValue? (digits : Text) : Option Float :=
  (Number.Decimal.numeral? digits).map fun (c, e) => Number.nearestDecimal c e

/-- The number that a numeral spells. -/
def numeralValue? (numeral : Text) : Option Constant :=
  let digits := numeral.filter (· ≠ '_')
  match (digits.drop 1).head?.bind baseOf?, digits.getLast? with
  | some base, _ =>
    match digits.drop 2 with
    | [] => none
    | digits => some (.int (baseValue base digits))
  | none, some last =>
    if last = 'j' ∨ last = 'J' then (floatValue? digits.dropLast).map .imaginary
    else if digits.all Char.isDigit then (wholeValue? digits).map fun n => .int n
    else (floatValue? digits).map .float
  | none, none => none

end Stencil.Expr
