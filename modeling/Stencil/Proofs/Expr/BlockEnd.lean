import Stencil.Expr.Compile
import Stencil.Proofs.Expr.TokenText
import Stencil.Proofs.Template.Source

/-!
# Expressions in blocks

The close search and the tokens of the expression language are two readings of one text. Main
statement: `parse_expression_block`, a block with an expression in it, set off by a space and a
newline, is read as that block and nothing else, unless the expression is blank, which no block may
be. The invariant behind it is `closes_of_tokensIn`: wherever a token starts, the close search has
as many blocks open as there are curly brackets among the open brackets.
-/

namespace Stencil.Expr

open Template Text

/-! ## The close search with curly brackets -/

section Standard

variable {depth : Nat} {s body t : Text}

/-- The piece at the start of a text in a block with the usual delimiters. -/
theorem next_standard (c : Char) (s : Text) :
    Piece.next .standard c s =
      if isQuote c then
        match quoted? c s with
        | some (span, rest) => .quoted span rest
        | none => .openQuote
      else if c = '#' then .comment (c :: s.takeWhile (· ≠ '\n')) (s.dropWhile (· ≠ '\n'))
      else if c = '\x7b' then .opening s
      else if c = '\x7d' then .closing s
      else .other c s := by
  have hplain : Piece.plain .standard c s =
      if c = '\x7b' then .opening s else if c = '\x7d' then .closing s else .other c s := by
    by_cases ho : c = '\x7b'
    · subst c
      rfl
    · have hne : ¬ (BlockRules.standard.nestable = true ∧
          BlockRules.standard.opening <+: c :: s) := by
        simp [BlockRules.standard, Ne.symm ho]
      rw [Piece.plain_of_not_opening hne, if_neg ho]
      by_cases hc : c = '\x7d'
      · subst c
        rfl
      · have hnone : after? BlockRules.standard.closing (c :: s) = none := by
          rw [after?_eq_none_iff]
          simp [BlockRules.standard, Ne.symm hc]
        rw [hnone, if_neg hc]
  have hcomment : BlockRules.standard.comment = [c] ↔ c = '#' := by
    simp [BlockRules.standard, eq_comm]
  rw [Piece.next, hplain]
  simp only [hcomment]
  rfl

theorem closes_other {c : Char} (hc : c ∉ marks ∨ c = '\n')
    (h : Closes .standard depth s body t) : Closes .standard depth (c :: s) (c :: body) t := by
  have hne (x : Char) (hx : x ∈ marks) (hnl : x ≠ '\n') : c ≠ x := by
    rintro rfl
    exact hc.elim (fun h => h hx) hnl
  have hquote : ¬ isQuote c = true := by
    simp [isQuote, hne _ (by decide : '\'' ∈ marks) (by decide),
      hne _ (by decide : '"' ∈ marks) (by decide), hne _ (by decide : '`' ∈ marks) (by decide)]
  have hnext : Piece.next .standard c s = .other c s := by
    rw [next_standard, if_neg hquote, if_neg (hne _ (by decide) (by decide)),
      if_neg (hne _ (by decide) (by decide)), if_neg (hne _ (by decide) (by decide))]
  exact .step hnext (by simp) (by simp [Piece.Ends]) h

theorem closes_plain {w : Text} (hw : Plain w) (h : Closes .standard depth s body t) :
    Closes .standard depth (w ++ s) (w ++ body) t := by
  induction w with
  | nil => exact h
  | cons c w ih =>
    obtain ⟨hc, hw⟩ := plain_cons.1 hw
    exact closes_other (.inl fun hmark => hc (List.mem_append_left _ hmark)) (ih hw)

theorem closes_quoted {q : Char} {r span : Text} (hq : isQuote q = true)
    (hspan : quoted? q r = some (span, s)) (h : Closes .standard depth s body t) :
    Closes .standard depth (q :: r) (span ++ body) t := by
  have hnext : Piece.next .standard q r = .quoted span s := by
    rw [next_standard, if_pos hq, hspan]
  exact .step hnext (by simp) (by simp [Piece.Ends]) h

theorem closes_comment (h : Closes .standard depth (s.dropWhile (· ≠ '\n')) body t) :
    Closes .standard depth ('#' :: s) ('#' :: (s.takeWhile (· ≠ '\n') ++ body)) t := by
  have hnext := next_standard '#' s
  rw [if_neg (by decide), if_pos rfl] at hnext
  exact .step hnext (by simp) (by simp [Piece.Ends]) h

theorem closes_opening (h : Closes .standard (depth + 1) s body t) :
    Closes .standard depth ('\x7b' :: s) ('\x7b' :: body) t := by
  have hnext := next_standard '\x7b' s
  rw [if_neg (by decide), if_neg (by decide), if_pos rfl] at hnext
  exact .step hnext (by simp) (by simp [Piece.Ends]) h

theorem next_standard_closing (s : Text) : Piece.next .standard '\x7d' s = .closing s := by
  rw [next_standard, if_neg (by decide), if_neg (by decide), if_neg (by decide), if_pos rfl]

theorem closes_closing (h : Closes .standard depth s body t) :
    Closes .standard (depth + 1) ('\x7d' :: s) ('\x7d' :: body) t :=
  .step (next_standard_closing s) (by simp) (by simp [Piece.Ends]) h

end Standard

/-! ## From tokens to pieces -/

/-- What a block adds after the expression in it. -/
def blockEnd : Text := ['\n', '\x7d']

/-- What stands after the expression in its source. -/
def sourceEnd : Text := ['\n', ')']

theorem closes_blockEnd : Closes .standard 0 blockEnd ['\n'] [] :=
  closes_other (.inr rfl) (.done (next_standard_closing []))

/-- A run without newlines in front of a line end lies in front of the newline. -/
theorem split_before_newline {w rest r t : Text} (hw : '\n' ∉ w) (h : w ++ rest = r ++ '\n' :: t) :
    ∃ r', r = w ++ r' ∧ rest = r' ++ '\n' :: t := by
  obtain ⟨r', hr, hrest⟩ | ⟨v, hv, hnl⟩ := List.append_eq_append_iff.1 h
  · exact ⟨r', hr, hrest⟩
  · cases v with
    | nil => exact ⟨[], by simpa using hv.symm, by simpa using hnl.symm⟩
    | cons x v =>
      rw [List.cons_append, List.cons.injEq] at hnl
      subst hv
      exact absurd (by simp [← hnl.1]) hw

theorem dropWhile_before_newline (r t : Text) :
    (r ++ '\n' :: t).dropWhile (· ≠ '\n') = r.dropWhile (· ≠ '\n') ++ '\n' :: t := by
  rw [List.dropWhile_append]
  split
  · rename_i hall
    rw [List.isEmpty_iff.1 hall]
    rfl
  · rfl

/-- A comment in an expression ends in front of the line end at the latest. -/
theorem closes_comment_blockEnd {depth : Nat} {r t : Text}
    (h : Closes .standard depth (r.dropWhile (· ≠ '\n') ++ blockEnd)
      (r.dropWhile (· ≠ '\n') ++ ['\n']) t) :
    Closes .standard depth ('#' :: (r ++ blockEnd)) ('#' :: (r ++ ['\n'])) t := by
  have hdrop : (r ++ blockEnd).dropWhile (· ≠ '\n') = r.dropWhile (· ≠ '\n') ++ blockEnd :=
    dropWhile_before_newline r ['\x7d']
  have htake : (r ++ blockEnd).takeWhile (· ≠ '\n') = r.takeWhile (· ≠ '\n') := by
    have hsplit := List.takeWhile_append_dropWhile (p := (· ≠ '\n')) (l := r ++ blockEnd)
    rw [hdrop, ← List.append_assoc, List.append_left_inj] at hsplit
    refine List.append_cancel_right (hsplit.trans ?_)
    exact List.takeWhile_append_dropWhile.symm
  have := closes_comment (hdrop ▸ h)
  rw [htake, ← List.append_assoc, List.takeWhile_append_dropWhile] at this
  exact this

/-- The last character of a quoted span is its quote. -/
theorem exists_quoted?_eq {q : Char} {s span rest : Text} (h : quoted? q s = some (span, rest)) :
    ∃ v, span = v ++ [q] := by
  obtain ⟨⟨body, rest'⟩, -, heq⟩ := Option.map_eq_some_iff.1 h
  simp only [Prod.mk.injEq] at heq
  obtain ⟨v, hv⟩ : ∃ v, terminator q s = v ++ [q] := by
    unfold terminator
    split
    · exact ⟨[q, q], rfl⟩
    · exact ⟨[], rfl⟩
  refine ⟨terminator q s ++ body ++ v, ?_⟩
  rw [← heq.1, List.append_assoc _ v, ← hv]

theorem quoted?_blockEnd {q : Char} {s span r : Text}
    (h : quoted? q s = some (span, r ++ sourceEnd)) :
    ∃ w, span = q :: w ∧ quoted? q (w ++ (r ++ blockEnd)) = some (span, r ++ blockEnd) := by
  cases r with
  | nil => exact quoted?_swap h ['\x7d']
  | cons d r => exact quoted?_swap h (r ++ blockEnd)

/-- A quoted span in front of a line end lies in front of it, since no quote comes after it. -/
theorem split_after_quote {w v rest r : Text} {q : Char} (hq : isQuote q = true)
    (h : w ++ (v ++ [q]) ++ rest = r ++ sourceEnd) :
    ∃ r', r = w ++ (v ++ [q]) ++ r' ∧ rest = r' ++ sourceEnd := by
  obtain ⟨r', hr, hrest⟩ | ⟨u, hu, hend⟩ := List.append_eq_append_iff.1 h
  · exact ⟨r', hr, hrest⟩
  · cases u with
    | nil => exact ⟨[], by simpa using hu.symm, by simpa using hend.symm⟩
    | cons x u =>
      -- the span would end inside the added line end, with a character that is no quote
      have hlast := congrArg List.getLast? hu
      rw [← List.append_assoc, List.getLast?_concat, List.getLast?_append_of_ne_nil _ (by simp)]
        at hlast
      have hmem : q ∈ sourceEnd := by
        rw [hend]
        exact List.mem_append_left _ (List.mem_of_getLast? hlast.symm)
      simp only [sourceEnd, List.mem_cons, List.not_mem_nil, or_false] at hmem
      obtain rfl | rfl := hmem <;> exact absurd hq (by decide)

/-- A token of an expression lies in the expression, and the close search passes over it. -/
theorem closes_tokenText {s r rest : Text} (h : TokenText s rest) (hs : s = r ++ sourceEnd) :
    ∃ w r', r = w ++ r' ∧ rest = r' ++ sourceEnd ∧
      ∀ {depth : Nat} {body t : Text}, Closes .standard depth (r' ++ blockEnd) body t →
        Closes .standard depth (r ++ blockEnd) (w ++ body) t := by
  cases h with
  | @plain w _ hw =>
    have hnl : '\n' ∉ w := fun hmem => hw _ hmem (by decide)
    obtain ⟨r', rfl, hrest⟩ := split_before_newline hnl hs
    refine ⟨w, r', rfl, hrest, fun hmore => ?_⟩
    rw [List.append_assoc]
    exact closes_plain hw hmore
  | @quoted w s span _ q hw hmark hspan =>
    have hq : isQuote q = true := by obtain rfl | rfl := hmark <;> rfl
    have happ := quoted?_append hspan
    obtain ⟨v, hv⟩ := exists_quoted?_eq hspan
    rw [happ, ← List.append_assoc, hv] at hs
    obtain ⟨r', rfl, rfl⟩ := split_after_quote hq hs
    rw [← hv]
    obtain ⟨u, hu, hswap⟩ := quoted?_blockEnd hspan
    refine ⟨w ++ span, r', rfl, rfl, fun hmore => ?_⟩
    have := closes_plain hw (closes_quoted hq hswap hmore)
    rw [← List.cons_append, ← hu] at this
    simpa using this

theorem closes_openingBracket {c : Char} {b : Bracket} {opened : List Bracket} {s body t : Text}
    (hb : openingBracket? c = some b)
    (h : Closes .standard ((b :: opened).count .curly) s body t) :
    Closes .standard (opened.count .curly) (c :: s) (c :: body) t := by
  unfold openingBracket? at hb
  split at hb
  · obtain rfl := Option.some.inj hb
    exact closes_other (.inl (by decide)) h
  · obtain rfl := Option.some.inj hb
    exact closes_other (.inl (by decide)) h
  · obtain rfl := Option.some.inj hb
    rw [List.count_cons_self] at h
    exact closes_opening h
  · simp at hb

theorem closes_closingBracket {c : Char} {b : Bracket} {opened : List Bracket} {s body t : Text}
    (hb : closingBracket? c = some b) (hopened : opened.head? = some b)
    (h : Closes .standard (opened.tail.count .curly) s body t) :
    Closes .standard (opened.count .curly) (c :: s) (c :: body) t := by
  cases opened with
  | nil => simp at hopened
  | cons b' opened =>
    obtain rfl : b' = b := by simpa using hopened
    unfold closingBracket? at hb
    split at hb
    · obtain rfl := Option.some.inj hb
      exact closes_other (.inl (by decide)) h
    · obtain rfl := Option.some.inj hb
      exact closes_other (.inl (by decide)) h
    · obtain rfl := Option.some.inj hb
      rw [List.count_cons_self]
      exact closes_closing h
    · simp at hb

/-- Where only the added round bracket is left, no other bracket is open. -/
theorem opened_of_tokensIn_end {opened : List Bracket} {ts : List Token}
    (h : tokensIn opened [')'] = some ts) : opened = [.round] := by
  rw [tokensIn, if_neg (by decide), if_neg (by decide), if_neg (by decide), if_neg (by decide)] at h
  have hend : (if opened.head? = some .round then
      (tokensIn opened.tail []).map (.closing .round :: ·) else none) = some ts := h
  split at hend
  · rename_i hhead
    obtain ⟨ts', htail, -⟩ := Option.map_eq_some_iff.1 hend
    rw [tokensIn] at htail
    split at htail
    · rename_i hnil
      cases opened with
      | nil => simp at hhead
      | cons b opened =>
        obtain rfl : b = .round := by simpa using hhead
        obtain rfl : opened = [] := hnil
        rfl
    · simp at htail
  · simp at hend

/-- At each token the close search has as many blocks open as there are open curly brackets. -/
theorem closes_of_tokensIn {opened : List Bracket} {s : Text} {ts : List Token}
    (h : tokensIn opened s = some ts) {r : Text} (hs : s = r ++ sourceEnd) :
    Closes .standard (opened.count .curly) (r ++ blockEnd) (r ++ ['\n']) [] := by
  fun_induction tokensIn opened s generalizing ts r with
  | case1 => simp [sourceEnd] at hs
  | case2 => simp at h
  | case3 opened c s hc ih =>
    have hmark : '\n' ∉ [c] ∧ c ∉ marks := by obtain rfl | rfl | rfl := hc <;> decide
    obtain ⟨r', rfl, rfl⟩ := split_before_newline hmark.1 hs
    exact closes_other (.inl hmark.2) (ih h rfl)
  | case4 => simp at h
  | case5 opened s hopened _ ih =>
    cases r with
    | nil =>
      -- the newline is the added one: here the tokens are over, and so is the block
      obtain rfl : s = [')'] := by simpa [sourceEnd] using hs
      obtain rfl := opened_of_tokensIn_end h
      exact closes_blockEnd
    | cons c r =>
      rw [List.cons_append, List.cons.injEq] at hs
      obtain ⟨rfl, rfl⟩ := hs
      exact closes_other (.inr rfl) (ih h rfl)
  | case6 opened s hhead _ _ ih =>
    obtain ⟨r', rfl, rfl⟩ := split_before_newline (w := ['\\']) (by decide) hs
    refine closes_other (.inl (by decide)) ?_
    cases r' with
    | nil =>
      -- a backslash at the end of the expression takes the added newline with it
      obtain rfl := opened_of_tokensIn_end h
      exact closes_blockEnd
    | cons c r =>
      obtain rfl : c = '\n' := by simpa using hhead
      exact closes_other (.inr rfl) (ih h rfl)
  | case7 => simp at h
  | case8 opened s _ _ _ ih =>
    obtain ⟨r', rfl, rfl⟩ := split_before_newline (w := ['#']) (by decide) hs
    exact closes_comment_blockEnd (ih h (dropWhile_before_newline r' [')']))
  | case9 opened c s _ hnl _ _ b hb _ ih =>
    obtain ⟨ts', hts, -⟩ := Option.map_eq_some_iff.1 h
    obtain ⟨r', rfl, rfl⟩ := split_before_newline (w := [c]) (by simpa using Ne.symm hnl) hs
    exact closes_openingBracket hb (ih hts rfl)
  | case10 => simp at h
  | case11 opened c s _ hnl _ _ _ b hb hopened ih =>
    obtain ⟨ts', hts, -⟩ := Option.map_eq_some_iff.1 h
    obtain ⟨r', rfl, rfl⟩ := split_before_newline (w := [c]) (by simpa using Ne.symm hnl) hs
    exact closes_closingBracket hb hopened (ih hts rfl)
  | case12 => simp at h
  | case13 opened c s _ _ _ _ _ _ t rest htoken ih =>
    obtain ⟨ts', hts, -⟩ := Option.map_eq_some_iff.1 h
    -- a token leaves the open brackets as they are
    obtain ⟨w, r', rfl, rfl, hclose⟩ := closes_tokenText (tokenText_of_token? htoken) hs
    rw [List.append_assoc w r' ['\n']]
    exact hclose (ih hts rfl)
  | case14 => simp at h

/-! ## Expressions as blocks -/

theorem unifyLines_eq_self {s : Text} (h : '\r' ∉ s) : unifyLines s = s := by
  fun_induction unifyLines s with
  | case1 => rfl
  | case2 => simp at h
  | case3 c s _ ih =>
    rw [List.mem_cons, not_or] at h
    rw [ih h.2, if_neg (Ne.symm h.1)]

/-- What is read as an expression has tokens that the grammar takes, and is not given up. -/
theorem compile_eq_ok {m : Machine} {text : Text} {e : Expr} (h : compile m text = .ok e) :
    m.refusal? text = none ∧ ∃ ts, tokens? (source text) = some ts ∧
      expressions? m.character? (parseFuel text.length) ts = some (e, []) := by
  unfold compile at h
  split at h
  · simp at h
  split at h
  · simp at h
  · rename_i hgiven
    dsimp only at h
    split at h
    · rename_i e' hread
      split at h
      · obtain rfl := Except.ok.inj h
        exact ⟨hgiven, Option.bind_eq_some_iff.1 hread⟩
      · simp at h
    · simp at h

section

variable {m : Machine} {e : Text}

theorem tokens?_of_isExpression (h : isExpression m e = .ok true) :
    ∃ ts, tokens? (source e) = some ts := by
  cases hcompile : compile m e with
  | ok x =>
    obtain ⟨-, ts, hts, -⟩ := compile_eq_ok hcompile
    exact ⟨ts, hts⟩
  | error cause => cases cause <;> simp [isExpression, hcompile] at h

/-- An expression has tokens inside the added round bracket. -/
theorem tokensIn_of_isExpression (h : isExpression m e = .ok true) :
    ∃ ts, tokensIn [.round] (unifyLines e ++ sourceEnd) = some ts := by
  obtain ⟨ts, hts⟩ := tokens?_of_isExpression h
  rw [tokens?, source, List.cons_append, tokensIn, if_neg (by decide), if_neg (by decide),
    if_neg (by decide), if_neg (by decide)] at hts
  have hopen : (tokensIn [.round] (unifyLines e ++ sourceEnd)).map (.opening .round :: ·) =
      some ts := hts
  obtain ⟨ts', hinside, -⟩ := Option.map_eq_some_iff.1 hopen
  exact ⟨ts', hinside⟩

/-- The close search finds the end of a block with an expression in it. -/
theorem closes_of_isExpression (hcr : '\r' ∉ e) (h : isExpression m e = .ok true) :
    Closes .standard 0 (e ++ blockEnd) (e ++ ['\n']) [] := by
  obtain ⟨ts, hts⟩ := tokensIn_of_isExpression h
  rw [unifyLines_eq_self hcr] at hts
  exact closes_of_tokensIn hts rfl

/-- An expression in a block, set off by a space and a newline, is read as that block and nothing
else, whatever machine takes it for one. Only a blank expression, which stands for the empty tuple,
is refused as an empty block. -/
theorem parse_expression_block (hcr : '\r' ∉ e) (h : isExpression m e = .ok true) :
    parse .standard ('\x7b' :: ' ' :: (e ++ ['\n', '\x7d'])) =
      if allBlank e then .error (.emptyBlock 0)
      else .ok [.expression (' ' :: (e ++ ['\n'])) 0 (e.length + 4)] := by
  have hclose : Closes .standard 0 (' ' :: (e ++ blockEnd)) (' ' :: (e ++ ['\n'])) [] :=
    closes_other (.inl (by decide)) (closes_of_isExpression hcr h)
  have hopen : ¬ BlockRules.standard.opening <+: ' ' :: (e ++ blockEnd) := by
    simp [BlockRules.standard]
  have hstart := Starts.block hopen hclose
  have hparse := parse_of_lexes (Lexes.cons hstart .nil)
  have hblank : allBlank (' ' :: (e ++ ['\n'])) = allBlank e := by
    simp [allBlank, isBlank]
  have hlen : ((Lexeme.block (' ' :: (e ++ ['\n']))).source .standard).length = e.length + 4 := by
    simp [Lexeme.source, BlockRules.standard]
  refine hparse.trans ?_
  cases hb : allBlank e with
  | true =>
    rw [segmentsFrom]
    simp only [hblank, hb, if_true]
  | false =>
    rw [segmentsFrom_block (hblank.trans hb), Nat.zero_add, hlen]
    rfl

end

/-- Curly brackets in a string, around the name of a character, in a display and in a comment, and
a generator that waits. -/
theorem parse_expression_block_curly :
    let e := "\x7b'\x7d': '\\N\x7bBULLET\x7d'\x7d, (x async for x in y) # \x7d".toList
    '\r' ∉ e ∧ isExpression .standard e = .ok true ∧
      parse .standard ('\x7b' :: ' ' :: (e ++ ['\n', '\x7d'])) =
        .ok [.expression (' ' :: (e ++ ['\n'])) 0 49] := by
  intro e
  have hcr : '\r' ∉ e := by decide
  have h : isExpression .standard e = .ok true := by decide +kernel
  refine ⟨hcr, h, ?_⟩
  have hblank : allBlank e = false := by decide
  rw [parse_expression_block hcr h, hblank]
  rfl

/-- Blank expressions are the exception: the empty text is an expression, and its block is
refused. -/
theorem parse_blank_expression_block :
    ¬ ∀ e : Text, '\r' ∉ e → '\x00' ∉ e → isExpression .standard e = .ok true →
      parse .standard ('\x7b' :: ' ' :: (e ++ ['\n', '\x7d'])) =
        .ok [.expression (' ' :: (e ++ ['\n'])) 0 (e.length + 4)] := by
  intro hall
  have hexpr : isExpression .standard [] = .ok true := by decide +kernel
  have hrefused : parse .standard ['\x7b', ' ', '\n', '\x7d'] = .error (.emptyBlock 0) := by
    decide +kernel
  have hread := hall [] (by simp) (by simp) hexpr
  exact absurd (hrefused.symm.trans hread) (by simp)

end Stencil.Expr
