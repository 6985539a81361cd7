/-!
# Powers of two and ten

Binary numbers are scaled by powers of two, their decimal digits by powers of ten.
-/

namespace Stencil.Number

/-- Two to the power `k`. -/
def twos (k : Nat) : Nat := Nat.pow 2 k

/-- Ten to the power `k`. -/
def tens (k : Nat) : Nat := Nat.pow 10 k

end Stencil.Number
