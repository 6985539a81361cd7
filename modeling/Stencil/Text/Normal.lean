import Stencil.Text.CombiningClass
import Stencil.Text.Composition
import Stencil.Text.Variant

/-!
# Normal forms

Texts that look alike or mean the same can be written in several ways; their normal form is the same
(`normalForm`). It is found in three steps: every character is taken apart into plain characters and
marks (`takenApart`), marks are put in the order of their classes (`orderMarks`), and letters and
marks that make one character are put together again (`composed`).
-/

namespace Stencil.Text

/-! ## Taking apart -/

/-- The plain characters and marks of a character that is taken apart at most `depth` times. -/
def partsOf : (depth : Nat) → Char → Text
  | 0, c => [c]
  | n + 1, c =>
    if c.toNat < 128 then [c]
    else match splitComposed? c with
      | some (a, b) => partsOf n a ++ [b]
      | none => (plainForm? c).getD [c]

/-- How often a character can be taken apart. -/
def maxParts : Nat := 4

/-- A text with every character taken apart. -/
def takenApart (s : Text) : Text := s.flatMap (partsOf maxParts)

/-! ## The order of marks -/

/-- A mark put in front of the marks at the start of a text that come after it by their class. -/
def placeMark (c : Char) : Text → Text
  | [] => [c]
  | d :: s =>
    if combiningClass d ≠ 0 ∧ combiningClass d < combiningClass c then d :: placeMark c s
    else c :: d :: s

/-- A text with the marks after each letter in the order of their classes; those of one class keep
theirs. -/
def orderMarks (s : Text) : Text := s.foldr placeMark []

/-! ## Putting together -/

/-- The text that starts with a letter, which characters are skipped after because it makes none
with them, the last first. A character after one of its own class or a higher one is out of reach.
-/
def composeFrom (letter : Char) (skipped : List Char) : Text → Text
  | [] => letter :: skipped.reverse
  | c :: s =>
    let reached := match skipped with
      | [] => true
      | d :: _ => combiningClass d < combiningClass c
    match if reached then composePair? letter c else none with
    | some whole => composeFrom whole skipped s
    | none =>
      if combiningClass c = 0 then letter :: skipped.reverse ++ composeFrom c [] s
      else composeFrom letter (c :: skipped) s

/-- A text with letters and marks put together. -/
def composed : Text → Text
  | [] => []
  | c :: s => composeFrom c [] s

/-- The normal form of a text. -/
def normalForm (s : Text) : Text := composed (orderMarks (takenApart s))

end Stencil.Text
