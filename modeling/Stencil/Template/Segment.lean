import Stencil.Template.Lexeme

/-!
# Segments of a template

A parsed template is a list of literal texts and expression blocks (`parse`), and its source can be
written back (`unparse`). Neighbouring characters and escaped delimiters make up one literal.
-/

namespace Stencil.Template

/-- A part of a parsed template: text that every row shows, with the source it was written as, or
an expression with the offsets of its block. -/
inductive Segment
  | literal (text raw : Text)
  | expression (text : Text) (start stop : Nat)
  deriving DecidableEq, Repr

/-- Adds literal text in front, joining it with a literal that is already there. -/
def pushLiteral (text raw : Text) : List Segment → List Segment
  | .literal t r :: rest => .literal (text ++ t) (raw ++ r) :: rest
  | rest => .literal text raw :: rest

/-- The segments of lexemes that start at offset `pos`. A block must not be blank. -/
def segmentsFrom (rules : BlockRules) (pos : Nat) : List Lexeme → Except ParseError (List Segment)
  | [] => .ok []
  | l :: ls =>
    let next := pos + (l.source rules).length
    match l with
    | .char c => (segmentsFrom rules next ls).map (pushLiteral [c] [c])
    | .escapedOpen =>
      (segmentsFrom rules next ls).map (pushLiteral rules.opening (l.source rules))
    | .escapedClose =>
      (segmentsFrom rules next ls).map (pushLiteral rules.closing (l.source rules))
    | .block body =>
      if Text.allBlank body then .error (.emptyBlock pos)
      else (segmentsFrom rules next ls).map (.expression body pos next :: ·)

/-- The segments of a template. An unfinished block anywhere is reported before an empty one. -/
def parse (rules : BlockRules) (text : Text) : Except ParseError (List Segment) := do
  segmentsFrom rules 0 (← lexemes rules text)

/-- The source of a parsed template whose blocks are written with the given delimiters. -/
def unparse (opening closing : Text) (segments : List Segment) : Text :=
  segments.flatMap fun
    | .literal _ raw => raw
    | .expression text _ _ => opening ++ text ++ closing

end Stencil.Template
