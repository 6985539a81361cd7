import Stencil.Number.Power

/-!
# Logarithms and exponentials in fixed point

A real number is kept as an integer, the number of its units, of which `unit` make one. With ten
units more than places are needed, the errors of the last unit in each step do not matter. The
series are followed until their terms vanish: the logarithm by its series in `(x - 1) / (x + 1)`
(`logNear`), the exponential by its own (`expSmall`).
-/

namespace Stencil.Number.Fixed

/-! ## Logarithms -/

/-- The terms of the series `z + z ^ 3 / 3 + z ^ 5 / 5 + ...` from one on, where `power` is an odd
power of `z` and `odd` its exponent. -/
def oddPowers (unit squared : Int) : (fuel : Nat) → (power odd : Int) → Int
  | 0, _, _ => 0
  | n + 1, power, odd =>
    if power = 0 then 0
    else Int.tdiv power odd + oddPowers unit squared n (Int.tdiv (power * squared) unit) (odd + 2)

/-- As many terms as a series may have: the binary digits of the unit. -/
def maxTerms (unit : Int) : Nat := 2 * unit.natAbs.log2 + 8

/-- The logarithm of a number near one: twice the series in `(x - 1) / (x + 1)`. -/
def logNear (unit x : Int) : Int :=
  let z := Int.tdiv ((x - unit) * unit) (x + unit)
  2 * oddPowers unit (Int.tdiv (z * z) unit) (maxTerms unit) z 1

/-- The logarithm of two. -/
def log2 (unit : Int) : Int := logNear unit (2 * unit)

/-- The logarithm of ten: three of two and one of a quarter more than one. -/
def log10 (unit : Int) : Int := 3 * log2 unit + logNear unit (unit + unit / 4)

/-- The logarithm of a number from one to ten: it is halved until it is near one. -/
def logDigit (unit : Int) : (halvings : Nat) → Int → Int
  | 0, x => logNear unit x
  | n + 1, x =>
    if 3 * x > 4 * unit then log2 unit + logDigit unit n (x / 2) else logNear unit x

/-! ## Exponentials -/

/-- The terms of the series `1 + x + x ^ 2 / 2 + ...` from one on, the `index`th. -/
def expTerms (unit x : Int) : (fuel : Nat) → (term index : Int) → Int
  | 0, _, _ => 0
  | n + 1, term, index =>
    if term = 0 then 0
    else term + expTerms unit x n (Int.tdiv (Int.tdiv (term * x) unit) index) (index + 1)

/-- The exponential of a number from zero to three. -/
def expSmall (unit x : Int) : Int := expTerms unit x (maxTerms unit) unit 1

/-- The exponential of a number, as a number from one to ten and a power of ten. -/
def exp (unit x : Int) : Int × Int :=
  let n := Int.fdiv x (log10 unit)
  (expSmall unit (x - n * log10 unit), n)

end Stencil.Number.Fixed
