import Stencil.Template.Quoted
import Stencil.Text.Blank

/-!
# Expression blocks

How a template marks its blocks (`BlockRules`), and where a block ends (`findClose`). Inside a block
the text is read piece by piece: a quoted span, a comment up to the next newline, an open
delimiter, a close delimiter, or a single character. The block ends at the close delimiter that
brings the open and close delimiters into balance.
-/

namespace Stencil.Template

/-- How blocks are written: their delimiters, whether quotes and comments inside a block are
ordinary characters (`literal`), and the comment character of the expression language. A `comment`
that is not a single character starts no comments. -/
structure BlockRules where
  opening : Text
  closing : Text
  literal : Bool
  comment : Text
  opening_ne : opening ≠ []
  closing_ne : closing ≠ []

namespace BlockRules

/-- Blocks in curly brackets, with comments that start at a number sign. -/
def standard : BlockRules where
  opening := ['\x7b']
  closing := ['\x7d']
  literal := false
  comment := ['#']
  opening_ne := by simp
  closing_ne := by simp

/-- The same rules for blocks between colons. -/
def betweenColons (rules : BlockRules) : BlockRules :=
  { rules with
    opening := [':'], closing := [':'], opening_ne := by simp, closing_ne := by simp }

/-- Rules with the given delimiters, which must not be empty. -/
def ofTexts? (opening closing : Text) (literal : Bool) (comment : Text) : Option BlockRules :=
  if ho : opening = [] then none
  else if hc : closing = [] then none
  else some ⟨opening, closing, literal, comment, ho, hc⟩

/-- Equal delimiters do not nest: an open delimiter inside a block closes it. -/
def nestable (rules : BlockRules) : Bool := rules.opening ≠ rules.closing

end BlockRules

/-! ## Pieces -/

/-- What stands at the start of a text inside a block, with the text after it. -/
inductive Piece
  | quoted (span rest : Text)
  | openQuote
  | comment (span rest : Text)
  | opening (rest : Text)
  | closing (rest : Text)
  | other (c : Char) (rest : Text)
  deriving DecidableEq, Repr

/-- The delimiter or single character at the start of `c :: s`. -/
def Piece.plain (rules : BlockRules) (c : Char) (s : Text) : Piece :=
  match if rules.nestable then Text.after? rules.opening (c :: s) else none with
  | some rest => .opening rest
  | none =>
    match Text.after? rules.closing (c :: s) with
    | some rest => .closing rest
    | none => .other c s

/-- The piece at the start of `c :: s`: quotes and comments come first, unless the rules are
literal, then an open delimiter, then a close delimiter. -/
def Piece.next (rules : BlockRules) (c : Char) (s : Text) : Piece :=
  if rules.literal then .plain rules c s
  else if isQuote c then
    match quoted? c s with
    | some (span, rest) => .quoted span rest
    | none => .openQuote
  else if rules.comment = [c] then
    .comment (c :: s.takeWhile (· ≠ '\n')) (s.dropWhile (· ≠ '\n'))
  else .plain rules c s

/-- A piece shortens the text. -/
def Piece.Shortens (n : Nat) : Piece → Prop
  | .quoted _ rest | .comment _ rest | .opening rest | .closing rest | .other _ rest =>
    rest.length < n
  | .openQuote => True

theorem Piece.plain_shortens (rules : BlockRules) (c : Char) (s : Text) :
    (Piece.plain rules c s).Shortens (c :: s).length := by
  unfold Piece.plain
  split
  · rename_i rest h
    split at h
    · exact Text.length_lt_of_after? rules.opening_ne h
    · simp at h
  · split
    · rename_i rest h
      exact Text.length_lt_of_after? rules.closing_ne h
    · simp [Piece.Shortens]

theorem Piece.next_shortens (rules : BlockRules) (c : Char) (s : Text) :
    (Piece.next rules c s).Shortens (c :: s).length := by
  unfold Piece.next
  split
  · exact Piece.plain_shortens rules c s
  · split
    · split
      · rename_i h; exact length_lt_of_quoted? h
      · trivial
    · split
      · have := (List.dropWhile_suffix (l := s) (· ≠ '\n')).length_le
        simp only [Piece.Shortens, List.length_cons]
        omega
      · exact Piece.plain_shortens rules c s

/-! ## The end of a block -/

/-- Why a block has no end: a quote `distance` characters into it is never closed, or its close
delimiter is missing. -/
inductive CloseError
  | openQuote (distance : Nat)
  | unclosed
  deriving DecidableEq, Repr

/-- The result of a search that started `span` earlier. -/
def extendClose (span : Text) : Except CloseError (Text × Text) → Except CloseError (Text × Text)
  | .ok (body, rest) => .ok (span ++ body, rest)
  | .error (.openQuote d) => .error (.openQuote (span.length + d))
  | .error .unclosed => .error .unclosed

/-- The body of a block and the text after its close delimiter, when `depth + 1` blocks are open at
the start of the text. -/
def findClose (rules : BlockRules) (depth : Nat) : Text → Except CloseError (Text × Text)
  | [] => .error .unclosed
  | c :: s =>
    match h : Piece.next rules c s with
    | .openQuote => .error (.openQuote 0)
    | .quoted span rest => extendClose span (findClose rules depth rest)
    | .comment span rest => extendClose span (findClose rules depth rest)
    | .opening rest => extendClose rules.opening (findClose rules (depth + 1) rest)
    | .closing rest =>
      match depth with
      | 0 => .ok ([], rest)
      | depth + 1 => extendClose rules.closing (findClose rules depth rest)
    | .other x rest => extendClose [x] (findClose rules depth rest)
termination_by s => s.length
decreasing_by
  all_goals
    have hs := Piece.next_shortens rules c s
    rw [h] at hs
    exact hs

/-! ## Nothing is lost -/

/-- The text that a piece takes from the start of a block's rest. -/
def Piece.Takes (rules : BlockRules) (s : Text) : Piece → Prop
  | .quoted span rest | .comment span rest => s = span ++ rest
  | .opening rest => s = rules.opening ++ rest
  | .closing rest => s = rules.closing ++ rest
  | .other c rest => s = c :: rest
  | .openQuote => True

theorem Piece.plain_takes (rules : BlockRules) (c : Char) (s : Text) :
    (Piece.plain rules c s).Takes rules (c :: s) := by
  unfold Piece.plain
  split
  · rename_i rest h
    split at h
    · exact Text.after?_eq_some_iff.1 h
    · simp at h
  · split
    · rename_i rest h
      exact Text.after?_eq_some_iff.1 h
    · rfl

theorem Piece.next_takes (rules : BlockRules) (c : Char) (s : Text) :
    (Piece.next rules c s).Takes rules (c :: s) := by
  unfold Piece.next
  split
  · exact Piece.plain_takes rules c s
  · split
    · split
      · rename_i h; exact quoted?_append h
      · trivial
    · split
      · simp [Piece.Takes]
      · exact Piece.plain_takes rules c s

theorem extendClose_eq_ok {span body rest : Text} {r : Except CloseError (Text × Text)}
    (h : extendClose span r = .ok (body, rest)) :
    ∃ b, r = .ok (b, rest) ∧ body = span ++ b := by
  match r, h with
  | .ok (b, rest'), h =>
    simp only [extendClose, Except.ok.injEq, Prod.mk.injEq] at h
    exact ⟨b, by rw [h.2], h.1.symm⟩
  | .error (.openQuote _), h => simp [extendClose] at h
  | .error .unclosed, h => simp [extendClose] at h

/-- The body of a block, its close delimiter and the text after it make up what was searched. -/
theorem findClose_append {rules : BlockRules} {depth : Nat} {s body rest : Text}
    (h : findClose rules depth s = .ok (body, rest)) : s = body ++ rules.closing ++ rest := by
  fun_induction findClose rules depth s generalizing body with
  | case1 => simp at h
  | case2 => simp at h
  | case3 d c s span r hp ih | case4 d c s span r hp ih | case5 d c s r hp ih
  | case8 d c s x r hp ih =>
    have ht := Piece.next_takes rules c s
    rw [hp] at ht
    obtain ⟨b, hb, rfl⟩ := extendClose_eq_ok h
    simpa [ih hb, Piece.Takes] using ht
  | case6 c s r hp =>
    have ht := Piece.next_takes rules c s
    rw [hp] at ht
    simp only [Except.ok.injEq, Prod.mk.injEq] at h
    obtain ⟨rfl, rfl⟩ := h
    simpa [Piece.Takes] using ht
  | case7 c s r hp d ih =>
    have ht := Piece.next_takes rules c s
    rw [hp] at ht
    obtain ⟨b, hb, rfl⟩ := extendClose_eq_ok h
    simpa [ih hb, Piece.Takes] using ht

theorem length_lt_of_findClose {rules : BlockRules} {depth : Nat} {s body rest : Text}
    (h : findClose rules depth s = .ok (body, rest)) : rest.length < s.length := by
  have : 0 < rules.closing.length := List.length_pos_iff.2 rules.closing_ne
  simp [findClose_append h]
  omega

end Stencil.Template
