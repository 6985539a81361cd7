import Stencil.Text.Basic

/-!
# Terminal styles

A style sets or clears text attributes and chooses colours. What it does not mention is left to the
style below it (`overlay`).
-/

namespace Stencil

/-- The attributes of styled text, in the order in which they are written out. -/
inductive Attribute
  | bold
  | dim
  | italic
  | underline
  | blink
  | blink2
  | reverse
  | conceal
  | strike
  | underline2
  | frame
  | encircle
  | overline
  deriving DecidableEq, Repr

namespace Attribute

/-- All attributes, in order. -/
def all : List Attribute := [
  bold, dim, italic, underline, blink, blink2, reverse, conceal, strike, underline2, frame,
  encircle, overline]

/-- The word for an attribute. -/
def word : Attribute → String
  | bold => "bold"
  | dim => "dim"
  | italic => "italic"
  | underline => "underline"
  | blink => "blink"
  | blink2 => "blink2"
  | reverse => "reverse"
  | conceal => "conceal"
  | strike => "strike"
  | underline2 => "underline2"
  | frame => "frame"
  | encircle => "encircle"
  | overline => "overline"

/-- The code that turns an attribute on. -/
def code : Attribute → Nat
  | bold => 1
  | dim => 2
  | italic => 3
  | underline => 4
  | blink => 5
  | blink2 => 6
  | reverse => 7
  | conceal => 8
  | strike => 9
  | underline2 => 21
  | frame => 51
  | encircle => 52
  | overline => 53

end Attribute

/-- A colour: the terminal's own, one of its numbered colours, or one by its components. -/
inductive ColorValue
  | default
  | numbered (n : Nat)
  | components (red green blue : Nat)
  deriving DecidableEq, Repr

/-- A colour with the name that it was asked for by. -/
structure Color where
  name : Text
  value : ColorValue
  deriving DecidableEq, Repr

/-- What a style says: for each attribute whether it is on or off, if it is mentioned, and the
colours of the text and of its background. -/
structure Style where
  marks : Attribute → Option Bool
  foreground : Option Color
  background : Option Color

namespace Style

instance : BEq Style where
  beq s t := Attribute.all.all (fun a => s.marks a == t.marks a) &&
    s.foreground == t.foreground && s.background == t.background

/-- The style that says nothing. -/
def null : Style := ⟨fun _ => none, none, none⟩

/-- Whether a style says nothing. -/
def isNull (s : Style) : Bool :=
  Attribute.all.all (fun a => (s.marks a).isNone) && s.foreground.isNone &&
    s.background.isNone

/-- A style with another laid over it, which wins where it says something. -/
def overlay (below above : Style) : Style where
  marks a := above.marks a <|> below.marks a
  foreground := above.foreground <|> below.foreground
  background := above.background <|> below.background

/-- A style that turns an attribute on or off. -/
def setting (mark : Attribute) (on : Bool) : Style :=
  { null with marks := fun a => if a = mark then some on else none }

/-- The style that chooses a colour for the text. -/
def ofForeground (c : Color) : Style := { null with foreground := some c }

/-- The style that chooses a colour for the background. -/
def ofBackground (c : Color) : Style := { null with background := some c }

/-- The words that define a style. -/
def definition (s : Style) : Text :=
  let attributes := Attribute.all.flatMap fun a =>
    match s.marks a with
    | some true => [a.word.toList]
    | some false => ["not".toList, a.word.toList]
    | none => []
  let words := attributes ++ (s.foreground.map Color.name).toList ++
    match s.background with
    | some c => ["on".toList, c.name]
    | none => []
  if words = [] then "none".toList else Text.joinWith [' '] words

end Style
end Stencil
