import Stencil.Template.Block

/-!
# Lexemes of a template

Outside its blocks a template is read character by character, apart from doubled delimiters, which
stand for themselves, and the open delimiter of a block. `lexemes` reads a whole template,
`Lexeme.source` gives the text that a lexeme was read from, and `spans` groups lexemes into the
regions that a caller sees. Main statement: `source_lexemes`, the lexemes of a template spell it.
-/

namespace Stencil.Template

/-! ## Errors -/

/-- Why a template cannot be parsed. Offsets count from the start of the template. -/
inductive ParseError
  | openQuote (quote block : Nat)
  | unclosed (opening closing : Text) (block : Nat)
  | emptyBlock (block : Nat)
  deriving DecidableEq, Repr

namespace ParseError

/-- Where the block at fault is opened. -/
def offset : ParseError → Nat
  | openQuote _ block => block
  | unclosed _ _ block => block
  | emptyBlock block => block

/-- What is wrong, in words. -/
def message : ParseError → String
  | openQuote quote block =>
    s!"Unterminated quote at offset {quote} inside expression opened at offset {block}"
  | unclosed opening closing block =>
    "Unterminated expression: '" ++ String.ofList opening ++ s!"' at offset {block}" ++
      " has no matching '" ++ String.ofList closing ++ "'"
  | emptyBlock block => s!"Empty expression at offset {block}"

end ParseError

/-! ## Reading -/

/-- A unit of template text: an ordinary character, a doubled delimiter or a block. -/
inductive Lexeme
  | char (c : Char)
  | escapedOpen
  | escapedClose
  | block (body : Text)
  deriving DecidableEq, Repr

/-- The text that a lexeme is read from. -/
def Lexeme.source (rules : BlockRules) : Lexeme → Text
  | .char c => [c]
  | .escapedOpen => rules.opening ++ rules.opening
  | .escapedClose => rules.closing ++ rules.closing
  | .block body => rules.opening ++ body ++ rules.closing

/-- The error of a block that opens at `pos`, found in the text after its open delimiter. -/
def CloseError.toParseError (rules : BlockRules) (pos : Nat) : CloseError → ParseError
  | .openQuote d => .openQuote (pos + rules.opening.length + d) pos
  | .unclosed => .unclosed rules.opening rules.closing pos

/-- The lexemes of a text that starts at offset `pos` of its template. A doubled open delimiter
comes before a block, and a close delimiter outside a block is ordinary text unless doubled. -/
def lexemesFrom (rules : BlockRules) (pos : Nat) : Text → Except ParseError (List Lexeme)
  | [] => .ok []
  | c :: s =>
    match _ho : Text.after? rules.opening (c :: s) with
    | some inside =>
      match hd : Text.after? rules.opening inside with
      | some rest =>
        (lexemesFrom rules (pos + 2 * rules.opening.length) rest).map (.escapedOpen :: ·)
      | none =>
        match _hf : findClose rules 0 inside with
        | .error e => .error (e.toParseError rules pos)
        | .ok (body, rest) =>
          let size := rules.opening.length + body.length + rules.closing.length
          (lexemesFrom rules (pos + size) rest).map (.block body :: ·)
    | none =>
      match hc : Text.after? (rules.closing ++ rules.closing) (c :: s) with
      | some rest =>
        (lexemesFrom rules (pos + 2 * rules.closing.length) rest).map (.escapedClose :: ·)
      | none => (lexemesFrom rules (pos + 1) s).map (.char c :: ·)
termination_by s => s.length
decreasing_by
  · have h1 := Text.length_lt_of_after? rules.opening_ne _ho
    have h2 := Text.length_lt_of_after? rules.opening_ne hd
    omega
  · have h1 := Text.length_lt_of_after? rules.opening_ne _ho
    have h2 := length_lt_of_findClose _hf
    omega
  · exact Text.length_lt_of_after? (by simp [rules.closing_ne]) hc
  · simp

/-- The lexemes of a template. -/
def lexemes (rules : BlockRules) (text : Text) : Except ParseError (List Lexeme) :=
  lexemesFrom rules 0 text

theorem map_eq_ok_iff {ε α β : Type} {f : α → β} {r : Except ε α} {b : β} :
    r.map f = .ok b ↔ ∃ a, r = .ok a ∧ f a = b := by
  cases r <;> simp [Except.map]

theorem source_lexemesFrom {rules : BlockRules} {pos : Nat} {s : Text} {ls : List Lexeme}
    (h : lexemesFrom rules pos s = .ok ls) : ls.flatMap (Lexeme.source rules) = s := by
  fun_induction lexemesFrom rules pos s generalizing ls with
  | case1 => simp_all
  | case2 pos c s inside ho rest hd ih =>
    obtain ⟨ls', hl, rfl⟩ := map_eq_ok_iff.1 h
    simp [ih hl, Lexeme.source, Text.after?_eq_some_iff.1 ho, Text.after?_eq_some_iff.1 hd]
  | case3 => simp at h
  | case4 pos c s inside ho hd body rest hf size =>
    rename_i ih
    obtain ⟨ls', hl, rfl⟩ := map_eq_ok_iff.1 h
    simp [ih hl, Lexeme.source, Text.after?_eq_some_iff.1 ho, findClose_append hf]
  | case5 pos c s ho rest hc ih =>
    obtain ⟨ls', hl, rfl⟩ := map_eq_ok_iff.1 h
    simp [ih hl, Lexeme.source, Text.after?_eq_some_iff.1 hc]
  | case6 pos c s ho hc ih =>
    obtain ⟨ls', hl, rfl⟩ := map_eq_ok_iff.1 h
    simp [ih hl, Lexeme.source]

/-- The lexemes of a template spell it. -/
theorem source_lexemes {rules : BlockRules} {text : Text} {ls : List Lexeme}
    (h : lexemes rules text = .ok ls) : ls.flatMap (Lexeme.source rules) = text :=
  source_lexemesFrom h

/-! ## Spans -/

/-- The kinds of regions of a template. -/
inductive SpanKind
  | plain
  | opening
  | closing
  | escapedOpen
  | escapedClose
  deriving DecidableEq, Repr

/-- A region of a template with its text. -/
structure Span where
  kind : SpanKind
  text : Text
  deriving DecidableEq, Repr

/-- Adds ordinary text in front, joining it with ordinary text that is already there. -/
def pushPlain (s : Text) : List Span → List Span
  | ⟨.plain, t⟩ :: rest => ⟨.plain, s ++ t⟩ :: rest
  | rest => ⟨.plain, s⟩ :: rest

/-- The regions of a list of lexemes: ordinary characters in runs, blocks in their parts. -/
def spans (rules : BlockRules) : List Lexeme → List Span
  | [] => []
  | .char c :: ls => pushPlain [c] (spans rules ls)
  | .escapedOpen :: ls => ⟨.escapedOpen, rules.opening ++ rules.opening⟩ :: spans rules ls
  | .escapedClose :: ls => ⟨.escapedClose, rules.closing ++ rules.closing⟩ :: spans rules ls
  | .block body :: ls =>
    let inside := if body = [] then [] else [⟨.plain, body⟩]
    ⟨.opening, rules.opening⟩ :: inside ++ ⟨.closing, rules.closing⟩ :: spans rules ls

/-- The regions of a template, in order. -/
def scan (rules : BlockRules) (text : Text) : Except ParseError (List Span) :=
  (lexemes rules text).map (spans rules)

/-- Each region with the offsets of its first character and of the one after its last. -/
def locate (pos : Nat) : List Span → List (Span × Nat × Nat)
  | [] => []
  | s :: rest => (s, pos, pos + s.text.length) :: locate (pos + s.text.length) rest

end Stencil.Template
