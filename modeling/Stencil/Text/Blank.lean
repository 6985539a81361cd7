import Stencil.Text.Basic

/-!
# Blank characters

Which characters count as white space, and the operations that drop it from the ends of a text.
-/

namespace Stencil.Text

/-- White space: the ASCII blanks and separators, the next-line and no-break characters, and the
space, line and paragraph separators of Unicode. -/
def isBlank (c : Char) : Bool :=
  let n := c.toNat
  (9 ≤ n && n ≤ 13) || (28 ≤ n && n ≤ 32) || n == 0x85 || n == 0xA0 || n == 0x1680 ||
    (0x2000 ≤ n && n ≤ 0x200A) || n == 0x2028 || n == 0x2029 || n == 0x202F || n == 0x205F ||
    n == 0x3000

/-- Whether every character is blank. -/
def allBlank (s : Text) : Bool := s.all isBlank

/-- A text without the characters of `p` at its end. -/
def dropEnd (p : Char → Bool) (s : Text) : Text := (s.reverse.dropWhile p).reverse

/-- A text without the characters of `p` at either end. -/
def stripWhere (p : Char → Bool) (s : Text) : Text := dropEnd p (s.dropWhile p)

/-- A text without the white space at either end. -/
def strip (s : Text) : Text := stripWhere isBlank s

/-- The words of a text: its longest runs without white space. -/
def words (s : Text) : List Text :=
  let (current, done) := s.foldr
    (fun c (current, done) =>
      if isBlank c then ([], if current = [] then done else current :: done)
      else (c :: current, done))
    (([], []) : Text × List Text)
  if current = [] then done else current :: done

end Stencil.Text
