import Stencil.Style.Decode

/-!
# Styling text

Writes a text in a style (`paint`). Every line is written piece by piece, each piece between codes
and a reset. A text that is already styled keeps its styles, with the new one below them.
-/

namespace Stencil

/-- Which codes a terminal understands: none, or those for all colours. -/
inductive ColorSystem
  | plain
  | full
  deriving DecidableEq, Repr

/-- The colour system with a name; terminals without colours have none. -/
def ColorSystem.ofName? : Option Text → Option ColorSystem
  | none => some plain
  | some name =>
    if ["truecolor", "256", "standard", "windows", "auto"].contains (String.ofList name) then
      some full
    else none

/-- The runs of a line as pieces: neighbouring runs without a style of their own are one piece.
Empty runs are dropped first unless they are to `separate` others. -/
def pieces (separate : Bool) (runs : List StyledRun) : List StyledRun :=
  let kept := runs.filter fun r => (separate && !r.style.isNull) || !r.text.isEmpty
  kept.foldr
    (fun r done =>
      match done with
      | next :: rest =>
        if r.style.isNull && next.style.isNull then ⟨r.style, r.text ++ next.text⟩ :: rest
        else r :: done
      | [] => [r])
    []

/-- The lines of runs that a text is painted as. A text without escape sequences is one run to a
line, with hidden characters left out. -/
def paintRuns (s : Text) : List (List StyledRun) :=
  if s.contains escape then
    let lines := decode s
    lines.map (pieces (lines.length == 1))
  else (Text.lines (s.filter (!isHidden ·))).map fun line => [⟨.null, line⟩]

/-- A text in a style, with escape sequences if the terminal understands them. -/
def paint (system : ColorSystem) (style : Style) (s : Text) : Text :=
  Text.joinWith ['\n'] ((paintRuns s).map fun runs => runs.flatMap fun r =>
    match system with
    | .plain => r.text
    | .full => (style.overlay r.style).paintPiece r.text)

end Stencil
