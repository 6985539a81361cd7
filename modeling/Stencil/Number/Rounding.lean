/-!
# Exact rounding of quotients

A quotient of naturals rounded to the nearest natural, a half going to the even neighbour. All
number texts with a set number of places are made of it. Main statements: `roundDiv_near`, within
half a unit, and `roundDiv_even_of_tie`, the rule for a half.
-/

namespace Stencil.Number

/-- `num / den` rounded to the nearest natural; a half goes to the even neighbour. -/
def roundDiv (num den : Nat) : Nat :=
  let quotient := num / den
  let twice := 2 * (num % den)
  if twice < den ∨ (twice = den ∧ quotient % 2 = 0) then quotient else quotient + 1

/-- What is rounded is at most half a unit away. -/
theorem roundDiv_near (num den : Nat) (h : 0 < den) :
    2 * num ≤ 2 * den * roundDiv num den + den ∧ 2 * den * roundDiv num den ≤ 2 * num + den := by
  have hd := Nat.div_add_mod num den
  have hm := Nat.mod_lt num h
  unfold roundDiv
  simp only
  split
  · have : 2 * den * (num / den) = 2 * (den * (num / den)) := Nat.mul_assoc 2 den _
    omega
  · have : 2 * den * (num / den + 1) = 2 * (den * (num / den)) + 2 * den := by
      rw [Nat.mul_add, Nat.mul_assoc, Nat.mul_one]
    omega

/-- Half-way between two naturals the even one is taken. -/
theorem roundDiv_even_of_tie (num den : Nat) (h : 2 * (num % den) = den) :
    roundDiv num den % 2 = 0 := by
  unfold roundDiv
  simp only [h, Nat.lt_irrefl, true_and, false_or]
  split
  · assumption
  · omega

end Stencil.Number
