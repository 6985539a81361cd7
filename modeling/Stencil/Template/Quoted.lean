import Stencil.Text.Basic

/-!
# Quoted spans

A quoted span starts with a quote character and runs to the next occurrence of its terminator that
no backslash escapes. The terminator is the quote character, or three of it if the text starts so;
backticks never come in threes. Main statement: `quoted?_append`, nothing is lost.
-/

namespace Stencil.Template

/-- The characters that start a quoted span inside a block. -/
def isQuote (c : Char) : Bool := c == '\'' || c == '"' || c == '`'

/-- What ends a quoted span that starts at `q` and goes on with `rest`. -/
def terminator (q : Char) (rest : Text) : Text :=
  if q ≠ '`' ∧ Text.startsWith [q, q] rest then [q, q, q] else [q]

/-- The part of a text before the first unescaped `stop`, and what follows that `stop`. A backslash
takes the next character with it, whatever that is. -/
def untilUnescaped? (stop : Text) : Text → Option (Text × Text)
  | [] => none
  | '\\' :: s =>
    match s with
    | [] => none
    | c :: s => (untilUnescaped? stop s).map fun (body, rest) => ('\\' :: c :: body, rest)
  | c :: s =>
    match Text.after? stop (c :: s) with
    | some rest => some ([], rest)
    | none => (untilUnescaped? stop s).map fun (body, rest) => (c :: body, rest)

/-- The quoted span that starts at the quote character `q`, with its terminators, and the text
after it; nothing if the span never ends. -/
def quoted? (q : Char) (rest : Text) : Option (Text × Text) :=
  let stop := terminator q rest
  (untilUnescaped? stop ((q :: rest).drop stop.length)).map fun (body, rest) =>
    (stop ++ body ++ stop, rest)

theorem untilUnescaped?_append {stop s body rest : Text}
    (h : untilUnescaped? stop s = some (body, rest)) : s = body ++ stop ++ rest := by
  fun_induction untilUnescaped? stop s generalizing body rest with
  | case1 => simp at h
  | case2 => simp at h
  | case3 c s ih =>
    obtain ⟨⟨b, r⟩, hb, heq⟩ := Option.map_eq_some_iff.1 h
    simp only [Prod.mk.injEq] at heq
    obtain ⟨rfl, rfl⟩ := heq
    simp [ih hb]
  | case4 c s _ r hr =>
    simp only [Option.some.injEq, Prod.mk.injEq] at h
    obtain ⟨rfl, rfl⟩ := h
    simpa using Text.after?_eq_some_iff.1 hr
  | case5 c s _ _ ih =>
    obtain ⟨⟨b, r⟩, hb, heq⟩ := Option.map_eq_some_iff.1 h
    simp only [Prod.mk.injEq] at heq
    obtain ⟨rfl, rfl⟩ := heq
    simp [ih hb]

theorem terminator_ne_nil (q : Char) (rest : Text) : terminator q rest ≠ [] := by
  unfold terminator; split <;> simp

theorem terminator_append_drop (q : Char) (rest : Text) :
    q :: rest = terminator q rest ++ (q :: rest).drop (terminator q rest).length := by
  unfold terminator
  split
  · rename_i h
    obtain ⟨r, hr⟩ := Option.isSome_iff_exists.1 h.2
    have := Text.after?_eq_some_iff.1 hr
    simp [this]
  · simp

/-- A quoted span and the text after it make up the text. -/
theorem quoted?_append {q : Char} {s span rest : Text} (h : quoted? q s = some (span, rest)) :
    q :: s = span ++ rest := by
  obtain ⟨⟨b, r⟩, hb, heq⟩ := Option.map_eq_some_iff.1 h
  simp only [Prod.mk.injEq] at heq
  obtain ⟨rfl, rfl⟩ := heq
  have h1 := untilUnescaped?_append hb
  conv => lhs; rw [terminator_append_drop q s, h1]
  simp

theorem length_lt_of_quoted? {q : Char} {s span rest : Text} (h : quoted? q s = some (span, rest)) :
    rest.length < (q :: s).length := by
  have happ := quoted?_append h
  obtain ⟨⟨b, r⟩, hb, heq⟩ := Option.map_eq_some_iff.1 h
  simp only [Prod.mk.injEq] at heq
  obtain ⟨rfl, rfl⟩ := heq
  have : 0 < (terminator q s).length := List.length_pos_iff.2 (terminator_ne_nil q s)
  rw [happ]
  simp; omega

end Stencil.Template
