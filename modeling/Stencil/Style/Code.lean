import Stencil.Style.Basic

/-!
# Styles as codes

The numbers that tell a terminal to switch to a style, and styled text with the escape sequences
that hold them.
-/

namespace Stencil

/-- The character that starts an escape sequence. -/
def escape : Char := '\x1b'

/-- A number in decimal. -/
def codeText (n : Nat) : Text := Nat.toDigits 10 n

/-- The codes of a colour of the text, or of its background. -/
def ColorValue.codes (background : Bool) : ColorValue → List Nat
  | .default => [if background then 49 else 39]
  | .numbered n =>
    if n < 8 then [(if background then 40 else 30) + n]
    else if n < 16 then [(if background then 92 else 82) + n]
    else [if background then 48 else 38, 5, n]
  | .components r g b => [if background then 48 else 38, 2, r, g, b]

/-- The codes of a style: its attributes in order, then the colours. -/
def Style.codes (s : Style) : List Nat :=
  (Attribute.all.filter fun a => s.marks a == some true).map Attribute.code ++
    (s.foreground.map fun c => c.value.codes false).getD [] ++
    (s.background.map fun c => c.value.codes true).getD []

/-- A piece of text in a style: between the codes of the style and a reset, or bare if there are no
codes. -/
def Style.paintPiece (s : Style) (piece : Text) : Text :=
  match s.codes with
  | [] => piece
  | codes =>
    if piece = [] then []
    else escape :: '[' :: Text.joinWith [';'] (codes.map codeText) ++
      'm' :: piece ++ [escape, '[', '0', 'm']

end Stencil
