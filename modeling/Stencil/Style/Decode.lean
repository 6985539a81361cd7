import Stencil.Style.Code

/-!
# Reading styled text

Takes text with escape sequences apart into runs of plain text with their styles. The sequences that
carry style codes change the style of what follows, on later lines too; all others are dropped.
-/

namespace Stencil

/-! ## Escape sequences -/

/-- What follows an escape character: how many characters belong to the sequence, the style codes
that it carries, and whether the next character is dropped along with it. -/
structure EscapeSequence where
  length : Nat
  codes : Option Text
  dropsNext : Bool
  deriving DecidableEq, Repr

/-- Whether a character lies between two others. -/
def charIn (first last c : Char) : Bool := first ≤ c && c ≤ last

/-- How far a text goes before an escape character and a backslash. -/
def stringEnd? : Text → Option Nat
  | [] => none
  | c :: s =>
    if c = escape ∧ s.head? = some '\\' then some 0
    else (stringEnd? s).map (· + 1)

/-- The sequence that starts after an escape character and an opening square bracket: parameters,
intermediate characters and a final character, which is `m` for style codes. -/
def controlSequence? (s : Text) : Option EscapeSequence :=
  let parameters := s.takeWhile (charIn '0' '?')
  let afterParameters := s.drop parameters.length
  let intermediates := afterParameters.takeWhile (charIn ' ' '/')
  match afterParameters.drop intermediates.length with
  | [] => none
  | final :: _ =>
    if charIn '@' '~' final then
      some ⟨parameters.length + intermediates.length + 2,
        if final = 'm' then some (parameters ++ intermediates) else none, false⟩
    else none

/-- The escape sequence whose escape character is followed by the given text. -/
def escapeSequence? : Text → Option EscapeSequence
  | [] => none
  | c :: s =>
    let single : EscapeSequence := ⟨1, none, c = '('⟩
    if charIn '0' '?' c then some ⟨1, none, false⟩
    else if c = ']' then
      match stringEnd? s with
      | some n => some ⟨n + 3, none, false⟩
      | none => some single
    else if c = '[' then controlSequence? s
    else if c = '(' || charIn '@' 'Z' c || charIn '\\' '_' c then some single
    else none

/-! ## Codes -/

/-- The attributes and colours that a code of its own stands for. -/
def codeStyle? (code : Nat) : Option Style :=
  let numbered (n : Nat) : Color := ⟨"color(".toList ++ codeText n ++ [')'], .numbered n⟩
  let default : Color := ⟨"default".toList, .default⟩
  match Attribute.all.find? fun a => a.code = code with
  | some a => some (.setting a true)
  | none =>
    if code = 22 then some ((Style.setting .dim false).overlay (.setting .bold false))
    else if code = 23 then some (.setting .italic false)
    else if code = 24 then some (.setting .underline false)
    else if code = 25 then some (.setting .blink false)
    else if code = 26 then some (.setting .blink2 false)
    else if code = 27 then some (.setting .reverse false)
    else if code = 28 then some (.setting .conceal false)
    else if code = 29 then some (.setting .strike false)
    else if 30 ≤ code ∧ code ≤ 37 then some (.ofForeground (numbered (code - 30)))
    else if code = 39 then some (.ofForeground default)
    else if 40 ≤ code ∧ code ≤ 47 then some (.ofBackground (numbered (code - 40)))
    else if code = 49 then some (.ofBackground default)
    else if code = 54 then some ((Style.setting .frame false).overlay (.setting .encircle false))
    else if code = 55 then some (.setting .overline false)
    else if 90 ≤ code ∧ code ≤ 97 then some (.ofForeground (numbered (code - 82)))
    else if 100 ≤ code ∧ code ≤ 107 then some (.ofBackground (numbered (code - 92)))
    else none

/-- The colour that the codes after a colour mark choose, and the codes after those. Codes that are
cut short choose nothing. -/
def colorCodes? : List Nat → Option Color × List Nat
  | 5 :: n :: rest =>
    (some ⟨"color(".toList ++ codeText n ++ [')'], .numbered n⟩, rest)
  | 2 :: r :: g :: b :: rest =>
    (some ⟨"rgb(".toList ++ Text.joinWith [','] (List.map codeText [r, g, b]) ++ [')'],
      .components r g b⟩, rest)
  | 5 :: _ | 2 :: _ | [] => (none, [])
  | _ :: rest => (none, rest)

theorem length_colorCodes?_le (codes : List Nat) :
    (colorCodes? codes).2.length ≤ codes.length := by
  fun_cases colorCodes? codes <;> simp <;> omega

/-- A style after the given codes. Zero takes everything back. -/
def Style.applyCodes (style : Style) : List Nat → Style
  | [] => style
  | code :: codes =>
    if code = 0 then Style.null.applyCodes codes
    else if code = 38 then
      (match (colorCodes? codes).1 with
        | some c => style.overlay (ofForeground c)
        | none => style).applyCodes (colorCodes? codes).2
    else if code = 48 then
      (match (colorCodes? codes).1 with
        | some c => style.overlay (ofBackground c)
        | none => style).applyCodes (colorCodes? codes).2
    else
      (match codeStyle? code with
        | some s => style.overlay s
        | none => style).applyCodes codes
termination_by codes => codes.length
decreasing_by
  all_goals
    have := length_colorCodes?_le codes
    simp only [List.length_cons]
    omega

/-- The codes that a sequence carries. A missing code is zero, a code too large is 255, and what is
no number is left out. -/
def parseCodes (s : Text) : List Nat :=
  (Text.splitAtChar ';' s).filterMap fun word =>
    if word.all Char.isDigit then
      some (min 255 (word.foldl (fun n d => 10 * n + (d.toNat - 48)) 0))
    else none

/-! ## Runs -/

/-- A run of plain text in a style. -/
structure StyledRun where
  style : Style
  text : Text

/-- Characters that control a terminal and are never shown: the bell, backspace, and all movements
to other lines but the newline. -/
def isHidden (c : Char) : Bool :=
  c == '\x07' || c == '\x08' || c == '\x0b' || c == '\x0c' || c == '\r'

/-- The runs of a line whose first character has the given style, and the style at its end. Each run
goes up to the next escape sequence; with `dropping` set the first plain character is dropped. -/
def lineRuns (style : Style) (dropping : Bool) (current : Text) : Text → List StyledRun × Style
  | [] => (if current = [] then [] else [⟨style, current.reverse⟩], style)
  | c :: s =>
    match if c = escape then escapeSequence? s else none with
    | some e =>
      let next := match e.codes with
        | some codes => style.applyCodes (parseCodes codes)
        | none => style
      let (runs, last) := lineRuns next e.dropsNext [] (s.drop e.length)
      (if current = [] then runs else ⟨style, current.reverse⟩ :: runs, last)
    | none => lineRuns style false (if dropping then current else c :: current) s
termination_by s => s.length
decreasing_by
  all_goals
    simp only [List.length_cons, List.length_drop]
    omega

/-- What is left of a line after its last carriage return. -/
def afterReturn (line : Text) : Text := (line.reverse.takeWhile (· ≠ '\r')).reverse

/-- The runs of each line. A style goes on over the end of a line. Hidden characters are left out,
so that a run may be empty. -/
def decodeLines (style : Style) : List Text → List (List StyledRun)
  | [] => []
  | line :: lines =>
    let (runs, next) := lineRuns style false [] (afterReturn line)
    runs.map (fun r => { r with text := r.text.filter (!isHidden ·) }) :: decodeLines next lines

/-- The lines of runs that a styled text is made of. -/
def decode (s : Text) : List (List StyledRun) := decodeLines .null (Text.lines s)

/-- A text without its styles. -/
def plainText (s : Text) : Text :=
  Text.joinWith ['\n'] ((decode s).map fun runs => runs.flatMap StyledRun.text)

end Stencil
