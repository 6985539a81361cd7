import Stencil.Rows.Vector
import Stencil.Template.Segment
import Stencil.Template.Trim

/-!
# From a template to rows

A template is joined from its parts, trimmed and parsed (`Layout.prepare`). Each of its blocks
becomes the texts of a vector, and the rows are put together from these and the literal texts
(`renderSegments`).
-/

namespace Stencil

open Template (Segment)

/-- How a template is read and how its rows are put together: how its blocks are written, the text
for missing values, what stands between the parts of a template, whether it is trimmed, and what
happens to vectors of different lengths. -/
structure Layout where
  rules : Template.BlockRules
  na : Text
  sep : Text
  trim : Bool
  broadcast : BroadcastPolicy

namespace Layout

/-- What holds unless a caller says otherwise. -/
def standard : Layout := ⟨.standard, "NA".toList, ['\n'], true, .recycle⟩

end Layout

/-! ## Templates -/

/-- A template as a caller gives it: in one piece, or in parts. -/
inductive TemplateSource
  | whole (s : Text)
  | parts (ps : List Text)
  deriving DecidableEq, Repr

/-- The text of a template, with `sep` between its parts. -/
def TemplateSource.join (sep : Text) : TemplateSource → Text
  | whole s => s
  | parts ps => Text.joinWith sep ps

/-- The segments of a template. -/
def Layout.prepare (l : Layout) (t : TemplateSource) :
    Except Template.ParseError (List Segment) :=
  let text := t.join l.sep
  Template.parse l.rules (if l.trim then Template.trim text else text)

/-! ## Rows -/

/-- The texts that a segment contributes: one of its own, or those of the vector that `apply` makes
of a block. -/
def segmentTexts (apply : Text → Rendering Value) (na : Text) : Segment → Rendering (List Text)
  | .literal text _ => return [text]
  | .expression text _ _ => do
    let v ← apply text
    Rendering.ofFaults (vectorTexts na v)

/-- The rows made of one text from each piece, with notice of uneven lengths. -/
def assemble (policy : BroadcastPolicy) (pieces : List (List Text)) : Rendering (List Text) := do
  let lengths := pieces.map fun piece => (piece.length : Int)
  let (rows, uneven) ← Run.ofExcept ((rowCount policy lengths).mapError .broadcast)
  uneven.forM Run.notice
  return (recycle? pieces rows).getD []

/-- The rows of a template whose blocks `apply` gives the values of, in order and once each. -/
def renderSegments (apply : Text → Rendering Value) (l : Layout) (segments : List Segment) :
    Rendering (List Text) := do
  let pieces ← segments.mapM (segmentTexts apply l.na)
  assemble l.broadcast pieces

end Stencil
