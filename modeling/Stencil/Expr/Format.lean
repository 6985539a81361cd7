import Stencil.Expr.Token

/-!
# Format strings

A format string is literal text and fields. A field is the source of an expression in curly
brackets, perhaps shown along with its value, converted, and laid out by a format of its own, which
may hold fields again.
-/

namespace Stencil.Expr

/-- A part of a format string: text as written, or a field. -/
inductive FormatPart
  | literal (body : Text)
  | field (source : Text) (shown : Option Text) (conversion : Option Char)
      (spec : List FormatPart)

/-- Adds text in front of the literal text that comes first. -/
def FormatPart.push (body : Text) : List FormatPart → List FormatPart
  | .literal t :: rest => .literal (body ++ t) :: rest
  | rest => .literal body :: rest

/-- The blanks that a field cannot consist of alone. -/
def isFieldBlank (c : Char) : Bool :=
  c == ' ' || c == '\t' || c == '\n' || c == '\x0c' || c == '\r'

/-- The source of the expression that a field starts with, and the text from the character on that
ends it: a closing curly bracket, a colon, an equals sign or an exclamation mark, outside brackets
and not part of a comparison. The source has no backslash and no comment. -/
def fieldSource? (opened : List Bracket) : Text → Option (Text × Text)
  | [] => none
  | c :: s =>
    let next := s.head?
    if c = '\\' ∨ c = '#' then none
    else if c = '\'' ∨ c = '"' then
      match _h : Template.quoted? c s with
      | some (span, rest) =>
        if span.contains '\\' then none
        else (fieldSource? opened rest).map fun (source, rest) => (span ++ source, rest)
      | none => none
    else if opened = [] ∧ next = some '=' ∧ (c = '!' ∨ c = '=' ∨ c = '<' ∨ c = '>') then
      (fieldSource? opened (s.drop 1)).map fun (source, rest) => (c :: '=' :: source, rest)
    else if opened = [] ∧ (c = '!' ∨ c = ':' ∨ c = '=' ∨ c = '\x7d') then some ([], c :: s)
    else
      match openingBracket? c with
      | some b => (fieldSource? (b :: opened) s).map fun (source, rest) => (c :: source, rest)
      | none =>
        if (closingBracket? c).isSome then
          if opened.head? = closingBracket? c then
            (fieldSource? opened.tail s).map fun (source, rest) => (c :: source, rest)
          else none
        else (fieldSource? opened s).map fun (source, rest) => (c :: source, rest)
termination_by s => s.length
decreasing_by
  · exact Template.length_lt_of_quoted? _h
  all_goals
    simp only [List.length_cons, List.length_drop]
    omega

/-- The part of a text that stood before `rest`, which it ends with. -/
def before (s rest : Text) : Text := s.take (s.length - rest.length)

/-- The conversion that a text starts with, and the text after it. -/
def conversion? : Text → Option (Option Char × Text)
  | '!' :: c :: s => if c = 's' ∨ c = 'r' ∨ c = 'a' then some (some c, s) else none
  | '!' :: [] => none
  | s => some (none, s)

/-- The part of a text up to a closing curly bracket and with it, and the text after it; all of the
text if there is no such bracket. -/
def splitName (s : Text) : Text × Text :=
  let name := s.takeWhile (· ≠ '\x7d')
  (name ++ (s.drop name.length).take 1, s.drop (name.length + 1))

/-- How deep fields can stand inside the formats of fields. -/
def maxFieldDepth : Nat := 2

mutual

/-- The parts of a format string, or of the format of a field (`depth` above zero), which ends in
front of a closing curly bracket. Doubled curly brackets of the string itself stand for themselves.
A backslash outside a raw string takes the next character with it unless that is a curly bracket,
and the name of a character too. -/
def formatParts? (raw : Bool) (depth : Nat) :
    (fuel : Nat) → Text → Option (List FormatPart × Text)
  | 0, _ => none
  | _ + 1, [] => some ([], [])
  | n + 1, c :: s =>
    let plain (body rest : Text) : Option (List FormatPart × Text) :=
      (formatParts? raw depth n rest).map fun (parts, rest) => (FormatPart.push body parts, rest)
    if c = '\\' ∧ !raw then
      match s with
      | [] => some ([.literal [c]], [])
      | 'N' :: '\x7b' :: rest =>
        let (name, rest) := splitName rest
        plain (c :: 'N' :: '\x7b' :: name) rest
      | d :: rest => if d = '\x7b' ∨ d = '\x7d' then plain [c] s else plain [c, d] rest
    else if (c = '\x7b' ∨ c = '\x7d') ∧ depth = 0 ∧ s.head? = some c then plain [c] (s.drop 1)
    else if c = '\x7d' then if depth = 0 then none else some ([], c :: s)
    else if c = '\x7b' then do
      let (field, rest) ← field? raw depth n s
      let (parts, rest) ← formatParts? raw depth n rest
      some (field :: parts, rest)
    else plain [c] s

/-- The field after an opening curly bracket, and the text after the closing one. -/
def field? (raw : Bool) (depth : Nat) : (fuel : Nat) → Text → Option (FormatPart × Text)
  | 0, _ => none
  | n + 1, s => do
    if depth ≥ maxFieldDepth then none
    let (source, rest) ← fieldSource? [] s
    if source.all isFieldBlank then none
    let (shown, rest) := match rest with
      | '=' :: after =>
        let after := after.dropWhile isFieldBlank
        (some (before s after), after)
      | rest => (none, rest)
    let (conversion, rest) ← conversion? rest
    let (spec, rest) ← match rest with
      | ':' :: after => formatParts? raw (depth + 1) n after
      | rest => some ([], rest)
    match rest with
    | '\x7d' :: rest => some (.field source shown conversion spec, rest)
    | _ => none

end

end Stencil.Expr
