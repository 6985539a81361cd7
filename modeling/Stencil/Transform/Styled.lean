import Stencil.Render.Layout
import Stencil.Style.Name
import Stencil.Style.Paint

/-!
# Style blocks

A block that is no expression and starts with a word and white space is a style block: the word
names a style, and the rest is a template that is rendered and shown in that style
(`evaluateStyled`). Style blocks may stand inside one another. Each block inside is shorter than the
one around it, which is why rendering them comes to an end.
-/

namespace Stencil

/-! ## The parts of a style block -/

/-- The characters that start a style name. -/
def isStyleStart (c : Char) : Bool := c.isAlpha || c == '_'

/-- The characters that a style name goes on with. -/
def isStyleChar (c : Char) : Bool := c.isAlphanum || c == '_'

/-- The style name that a block starts with, and its body, which is never empty. Of a body that is
all blank only the last character counts. -/
def splitStyle? (text : Text) : Option (Text × Text) :=
  match text.dropWhile Text.isBlank with
  | [] => none
  | c :: s =>
    if isStyleStart c then
      let name := c :: s.takeWhile isStyleChar
      let after := s.dropWhile isStyleChar
      match after.dropWhile Text.isBlank, after with
      | d :: body, e :: _ => if Text.isBlank e then some (name, d :: body) else none
      | [], _ :: e :: rest => some (name, [(e :: rest).getLast (by simp)])
      | _, _ => none
    else none

/-! ## Brushes -/

/-- What shows a row: a style, or a value that is called on it. -/
inductive Brush
  | style (s : Style)
  | callable (f : Value)

namespace Brush

/-- The brush for a style definition. A definition that does not stand for a style is the fault of
the block that starts with `name`. -/
def ofDefinition (name definition : Text) : Except Problem Brush :=
  match Style.ofDefinition definition with
  | .ok s => .ok (style s)
  | .error .notANumber => .error (.fault (.style .notANumber))
  | .error e => .error (.block name (.style e))

/-- The brush that a name stands for: what the context has under it, if that is a style, a
definition or a function, and else the style of that name. -/
def named (store : Store) (c : Context) (name : Text) : Except Problem Brush :=
  match c.lookup store name with
  | some (.style s) => .ok (style s)
  | some v =>
    match v.text? with
    | some definition => ofDefinition name definition
    | none => if v.isCallable then .ok (callable v) else ofDefinition name (styleDefinition name)
  | none => ofDefinition name (styleDefinition name)

/-- A row as a brush shows it. -/
def apply (system : Option Text) (b : Brush) (row : Text) : Rendering Value :=
  match b with
  | style s =>
    match ColorSystem.ofName? system with
    | some system => return .text (paint system s row)
    | none => throw .colorSystem
  | callable f => Rendering.ofFaults (callWith f [.text row])

end Brush

/-! ## Rendering -/

/-- The value of a block whose style blocks are rendered by a layout: that of an expression is its
own, and that of a style block is a list of rows. -/
def evaluateStyled (l : Layout) (system : Option Text) (c : Context) (text : Text) :
    Rendering Value := do
  if ← isExpression text then evaluate text (.context c)
  else
    match splitStyle? text with
    | none => evaluate text (.context c)
    | some (name, body) => do
      let brush ← Run.ofExcept (Brush.named (← get) c name)
      let segments ← Run.ofExcept ((l.prepare (.whole body)).mapError .parse)
      let rows ← renderSegments
        (fun inner =>
          if _h : inner.length < text.length then evaluateStyled l system c inner
          else throw (.fault .depth))
        l segments
      let shown ← rows.mapM (brush.apply system)
      Run.newList shown
termination_by text.length

end Stencil
