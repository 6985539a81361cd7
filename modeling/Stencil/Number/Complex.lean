import Stencil.Number.Text

/-!
# Complex numbers

Powers of negative numbers lead outside the real ones. This module has the arithmetic of complex
numbers with floating-point parts, and their text.
-/

namespace Stencil.Number

/-- A complex number. -/
structure Complex where
  re : Float
  im : Float

/-- What can go wrong with complex numbers. -/
inductive ComplexFault
  | division
  | power
  | overflow
  deriving DecidableEq, Repr

namespace Complex

/-- A real number. -/
def ofFloat (x : Float) : Complex := ⟨x, 0.0⟩

def add (a b : Complex) : Complex := ⟨a.re + b.re, a.im + b.im⟩

def sub (a b : Complex) : Complex := ⟨a.re - b.re, a.im - b.im⟩

def neg (a : Complex) : Complex := ⟨-a.re, -a.im⟩

def mul (a b : Complex) : Complex :=
  ⟨a.re * b.re - a.im * b.im, a.re * b.im + a.im * b.re⟩

/-- Whether both parts are zero. -/
def isZero (a : Complex) : Bool := a.re == 0.0 && a.im == 0.0

/-- The quotient of two numbers: numerator and denominator are divided by the larger part of the
denominator first. -/
def div (a b : Complex) : Except ComplexFault Complex :=
  if b.isZero then .error .division
  else if b.re.abs ≥ b.im.abs then
    let ratio := b.im / b.re
    let denominator := b.re + b.im * ratio
    .ok ⟨(a.re + a.im * ratio) / denominator, (a.im - a.re * ratio) / denominator⟩
  else if b.im.abs ≥ b.re.abs then
    let ratio := b.re / b.im
    let denominator := b.re * ratio + b.im
    .ok ⟨(a.re * ratio + a.im) / denominator, (a.im * ratio - a.re) / denominator⟩
  else .ok ⟨0.0 / 0.0, 0.0 / 0.0⟩

/-- The distance from zero. -/
def abs (a : Complex) : Float :=
  if a.im == 0.0 then a.re.abs
  else if a.re == 0.0 then a.im.abs
  else Float.sqrt (a.re * a.re + a.im * a.im)

/-- A power with a natural number for its exponent, by repeated squaring. -/
def powNat (a : Complex) : (steps : Nat) → (n : Nat) → Complex → Complex
  | 0, _, r => r
  | steps + 1, n, r =>
    if n = 0 then r
    else powNat (a.mul a) steps (n / 2) (if n % 2 = 1 then r.mul a else r)

/-- A power by the length and the angle of the number. -/
def powPolar (a b : Complex) : Except ComplexFault Complex :=
  if b.isZero then .ok ⟨1.0, 0.0⟩
  else if a.isZero then
    if b.im != 0.0 || b.re < 0.0 then .error .power else .ok ⟨0.0, 0.0⟩
  else
    let angle := Float.atan2 a.im a.re
    let length := Float.pow a.abs b.re
    let turned := angle * b.re
    let (length, turned) :=
      if b.im != 0.0 then (length / Float.exp (angle * b.im), turned + b.im * Float.log a.abs)
      else (length, turned)
    .ok ⟨length * Float.cos turned, length * Float.sin turned⟩

/-- Whether a part is infinite. -/
def isInfinite (a : Complex) : Bool :=
  match parts a.re, parts a.im with
  | .infinite _, _ | _, .infinite _ => true
  | _, _ => false

/-- A power. Exponents that are whole numbers up to a hundred are counted out. -/
def pow (a b : Complex) : Except ComplexFault Complex := do
  let r ←
    if b.im == 0.0 && b.re == b.re.floor && b.re.abs <= 100.0 then
      let whole := powNat a 8 b.re.abs.toUInt64.toNat ⟨1.0, 0.0⟩
      if b.re > 0.0 then .ok whole
      else match div ⟨1.0, 0.0⟩ whole with
        | .error _ => .error .power
        | r => r
    else powPolar a b
  if r.isInfinite then .error .overflow else .ok r

/-- A part of a complex number: whole numbers have no point. -/
def partText (x : Float) : Text :=
  match (floatText x).reverse with
  | '0' :: '.' :: s => s.reverse
  | s => s.reverse

/-- The text of a complex number: the imaginary part alone if the real one is zero without a sign,
else both between brackets. -/
def text (a : Complex) : Text :=
  let im := partText a.im
  if a.re.toBits == 0 then im ++ ['j']
  else
    let signed := if im.head? = some '-' then im else '+' :: im
    '(' :: partText a.re ++ signed ++ ['j', ')']

end Complex
end Stencil.Number
