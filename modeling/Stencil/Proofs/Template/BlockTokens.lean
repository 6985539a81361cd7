import Mathlib.Data.List.Basic
import Stencil.Proofs.Template.Lexing
import Stencil.Proofs.Template.Quotation

/-!
# The tokens inside a block

Inside a block a text is split into tokens from left to right (`Splits`), which can be done in one
way only, up to the end of the text or to a quote that is never closed. A block ends at the first
close token with which the close tokens outnumber the open ones (`FirstExcess`). Main statement:
`blockEnd?_exact`, the close search finds that token, and fails if there is none.
-/

namespace Stencil.Template

open Text

/-! ## Tokens -/

/-- A token inside a block. -/
inductive BlockToken
  | quoted (span : Text)
  | comment (span : Text)
  | opening
  | closing
  | other (c : Char)
  deriving DecidableEq, Repr

/-- The text of a token. -/
def BlockToken.source (rules : BlockRules) : BlockToken → Text
  | .quoted span | .comment span => span
  | .opening => rules.opening
  | .closing => rules.closing
  | .other c => [c]

/-- The text of several tokens. -/
def sourceOfTokens (rules : BlockRules) (tokens : List BlockToken) : Text :=
  tokens.flatMap (BlockToken.source rules)

/-- No quoted span and no comment starts at the first character of the text. -/
def StartsPlain (rules : BlockRules) (s : Text) : Prop :=
  rules.literal = true ∨ ∀ c ∈ s.head?, isQuote c = false ∧ rules.comment ≠ [c]

/-- The text of the token, with `rest` after it, starts with the token. Quoted spans and comments
come first, unless the rules are literal, then open delimiters, then close delimiters. -/
inductive TokenAt (rules : BlockRules) : BlockToken → (rest : Text) → Prop
  | quoted {span rest : Text} (hlit : rules.literal = false) (h : Quotation span rest) :
      TokenAt rules (.quoted span) rest
  | comment {c : Char} {line rest : Text} (hlit : rules.literal = false)
      (hquote : isQuote c = false) (hc : rules.comment = [c]) (hline : '\n' ∉ line)
      (hend : ∀ d ∈ rest.head?, d = '\n') : TokenAt rules (.comment (c :: line)) rest
  | opening {rest : Text} (hplain : StartsPlain rules (rules.opening ++ rest)) :
      TokenAt rules .opening rest
  | closing {rest : Text} (hplain : StartsPlain rules (rules.closing ++ rest))
      (hopen : ¬ rules.opening <+: rules.closing ++ rest) : TokenAt rules .closing rest
  | other {c : Char} {rest : Text} (hplain : StartsPlain rules (c :: rest))
      (hopen : ¬ rules.opening <+: c :: rest) (hclose : ¬ rules.closing <+: c :: rest) :
      TokenAt rules (.other c) rest

/-- A quoted span starts at the first character of the text, and never ends. -/
def OpenQuote (rules : BlockRules) (s : Text) : Prop :=
  rules.literal = false ∧ (∃ q ∈ s.head?, isQuote q = true) ∧
    ∀ span rest, s = span ++ rest → ¬ Quotation span rest

/-- The text is split into the tokens, up to `left`: the end of the text, or a quote that is never
closed. -/
inductive Splits (rules : BlockRules) : Text → List BlockToken → (left : Text) → Prop
  | done : Splits rules [] [] []
  | openQuote {s : Text} (h : OpenQuote rules s) : Splits rules s [] s
  | cons {t : BlockToken} {rest left : Text} {tokens : List BlockToken} (h : TokenAt rules t rest)
      (more : Splits rules rest tokens left) :
      Splits rules (t.source rules ++ rest) (t :: tokens) left

/-! ## Tokens and pieces -/

/-- The piece that a token is found as. -/
def BlockToken.piece (rest : Text) : BlockToken → Piece
  | .quoted span => .quoted span rest
  | .comment span => .comment span rest
  | .opening => .opening rest
  | .closing => .closing rest
  | .other c => .other c rest

variable {rules : BlockRules}

@[simp] theorem BlockToken.rest_piece (t : BlockToken) (rest : Text) :
    (t.piece rest).rest = rest := by
  cases t <;> rfl

@[simp] theorem BlockToken.span_piece (t : BlockToken) (rest : Text) :
    (t.piece rest).span rules = t.source rules := by
  cases t <;> rfl

theorem BlockToken.piece_ne_openQuote (t : BlockToken) (rest : Text) :
    t.piece rest ≠ .openQuote := by
  cases t <;> simp [piece]

/-- A piece tells which token it is and what follows it. -/
theorem BlockToken.piece_inj {t t' : BlockToken} {rest rest' : Text}
    (h : t.piece rest = t'.piece rest') : t = t' ∧ rest = rest' := by
  cases t <;> cases t' <;> simp_all [piece]

theorem next_of_startsPlain {c : Char} {s : Text} (h : StartsPlain rules (c :: s)) :
    Piece.next rules c s = .plain rules c s := by
  unfold Piece.next
  by_cases hlit : rules.literal = true
  · rw [if_pos hlit]
  · obtain ⟨hquote, hcomment⟩ := h.resolve_left hlit c rfl
    rw [if_neg hlit, if_neg (by simp [hquote]), if_neg hcomment]

/-- A text that does not start plainly starts with a quote character or with a comment. -/
theorem startsPlain_or (rules : BlockRules) (c : Char) (s : Text) :
    StartsPlain rules (c :: s) ∨
      rules.literal = false ∧ (isQuote c = true ∨ isQuote c = false ∧ rules.comment = [c]) := by
  by_cases hplain : StartsPlain rules (c :: s)
  · exact .inl hplain
  obtain ⟨hlit, hspecial⟩ :
      rules.literal = false ∧ ¬ (isQuote c = false ∧ rules.comment ≠ [c]) := by
    simpa [StartsPlain] using hplain
  cases hquote : isQuote c with
  | true => exact .inr ⟨hlit, .inl rfl⟩
  | false => exact .inr ⟨hlit, .inr ⟨rfl, Decidable.of_not_not fun h => hspecial ⟨hquote, h⟩⟩⟩

/-- A quoted span starts with a quote character. -/
theorem Quotation.isQuote_head {span rest s : Text} {c : Char} (h : Quotation span rest)
    (hs : c :: s = span ++ rest) : isQuote c = true := by
  cases h with
  | @triple q body _ hq hbody =>
    obtain rfl : c = q := (List.cons.inj hs).1
    obtain rfl | rfl := hq <;> rfl
  | @single q body _ hq hone hbody =>
    obtain rfl : c = q := (List.cons.inj hs).1
    exact hq

/-- A comment is all that stands in front of a newline or the end of the text. -/
theorem line_of_comment {line rest : Text} (hline : '\n' ∉ line)
    (hend : ∀ d ∈ rest.head?, d = '\n') :
    (line ++ rest).takeWhile (· ≠ '\n') = line ∧ (line ++ rest).dropWhile (· ≠ '\n') = rest := by
  have hall : ∀ a ∈ line, decide (a ≠ '\n') = true := by
    intro a ha
    exact decide_eq_true fun hnewline => hline (hnewline ▸ ha)
  have hrest : rest.takeWhile (· ≠ '\n') = [] ∧ rest.dropWhile (· ≠ '\n') = rest := by
    cases rest with
    | nil => exact ⟨rfl, rfl⟩
    | cons d rest =>
      have hd : d = '\n' := hend d rfl
      exact ⟨List.takeWhile_cons_of_neg (by simp [hd]), List.dropWhile_cons_of_neg (by simp [hd])⟩
  rw [List.takeWhile_append_of_pos hall, List.dropWhile_append_of_pos hall, hrest.1, hrest.2,
    List.append_nil]
  exact ⟨rfl, rfl⟩

/-- A token is found where it stands. -/
theorem TokenAt.next_eq (hn : rules.nestable = true) {t : BlockToken} {rest s : Text} {c : Char}
    (h : TokenAt rules t rest) (hs : c :: s = t.source rules ++ rest) :
    Piece.next rules c s = t.piece rest := by
  cases h with
  | quoted hlit h =>
    have hquote := h.isQuote_head hs
    have hfound := (quoted?_eq_some_iff hquote).2 ⟨hs, h⟩
    unfold Piece.next
    rw [if_neg (by simp [hlit]), if_pos hquote, hfound]
    rfl
  | @comment c' line _ hlit hquote hc hline hend =>
    obtain ⟨rfl, rfl⟩ : c = c' ∧ s = line ++ rest := List.cons.inj hs
    obtain ⟨htake, hdrop⟩ := line_of_comment hline hend
    unfold Piece.next
    rw [if_neg (by simp [hlit]), if_neg (by simp [hquote]), if_pos hc, htake, hdrop]
    rfl
  | opening hplain =>
    have hs : c :: s = rules.opening ++ rest := hs
    rw [← hs] at hplain
    rw [next_of_startsPlain hplain]
    exact Piece.plain_eq_opening hn hs
  | closing hplain hopen =>
    have hs : c :: s = rules.closing ++ rest := hs
    rw [← hs] at hplain
    have hnot : ¬ (rules.nestable = true ∧ rules.opening <+: c :: s) := fun h => hopen (hs ▸ h.2)
    have hafter : after? rules.closing (c :: s) = some rest := after?_eq_some_iff.2 hs
    rw [next_of_startsPlain hplain, Piece.plain_of_not_opening hnot, hafter]
    rfl
  | other hplain hopen hclose =>
    obtain ⟨rfl, rfl⟩ : c = _ ∧ s = rest := List.cons.inj hs
    have hnot : ¬ (rules.nestable = true ∧ rules.opening <+: c :: s) := fun h => hopen h.2
    have hafter : after? rules.closing (c :: s) = none := after?_eq_none_iff.2 hclose
    rw [next_of_startsPlain hplain, Piece.plain_of_not_opening hnot, hafter]
    rfl

theorem OpenQuote.next_eq {c : Char} {s : Text} (h : OpenQuote rules (c :: s)) :
    Piece.next rules c s = .openQuote := by
  obtain ⟨hlit, ⟨q, hq, hquote⟩, hopen⟩ := h
  obtain rfl : c = q := Option.some.inj hq
  have hnone : quoted? c s = none := by
    rw [Option.eq_none_iff_forall_ne_some]
    rintro ⟨span, rest⟩ hfound
    obtain ⟨hs, hspan⟩ := (quoted?_eq_some_iff hquote).1 hfound
    exact hopen span rest hs hspan
  unfold Piece.next
  rw [if_neg (by simp [hlit]), if_pos hquote, hnone]

/-- A text that is not empty starts with a token or with a quote that is never closed. -/
theorem exists_tokenAt (rules : BlockRules) (c : Char) (s : Text) :
    OpenQuote rules (c :: s) ∨
      ∃ t rest, TokenAt rules t rest ∧ c :: s = t.source rules ++ rest := by
  obtain hplain | ⟨hlit, hquote | ⟨hquote, hcomment⟩⟩ := startsPlain_or rules c s
  · by_cases hopen : rules.opening <+: c :: s
    · obtain ⟨rest, hrest⟩ := hopen
      exact .inr ⟨.opening, rest, .opening (hrest ▸ hplain), hrest.symm⟩
    by_cases hclose : rules.closing <+: c :: s
    · obtain ⟨rest, hrest⟩ := hclose
      exact .inr ⟨.closing, rest, .closing (hrest ▸ hplain) (hrest ▸ hopen), hrest.symm⟩
    · exact .inr ⟨.other c, s, .other hplain hopen hclose, rfl⟩
  · cases hfound : quoted? c s with
    | some found =>
      obtain ⟨span, rest⟩ := found
      obtain ⟨hs, hspan⟩ := (quoted?_eq_some_iff hquote).1 hfound
      exact .inr ⟨.quoted span, rest, .quoted hlit hspan, hs⟩
    | none =>
      refine .inl ⟨hlit, ⟨c, rfl, hquote⟩, fun span rest hs hspan => ?_⟩
      have := (quoted?_eq_some_iff hquote).2 ⟨hs, hspan⟩
      rw [hfound] at this
      exact absurd this (by simp)
  · refine .inr ⟨.comment (c :: s.takeWhile (· ≠ '\n')), s.dropWhile (· ≠ '\n'),
      .comment hlit hquote hcomment ?_ ?_, by simp [BlockToken.source]⟩
    · intro hmem
      have hall := List.all_eq_true.1 (List.all_takeWhile (l := s) (p := (· ≠ '\n'))) _ hmem
      exact absurd hall (by simp)
    · intro d hd
      have hstop := List.head?_dropWhile_not (· ≠ '\n') s
      rw [hd] at hstop
      simpa using hstop

/-! ## Splitting a text -/

theorem TokenAt.source_ne_nil {t : BlockToken} {rest : Text} (h : TokenAt rules t rest) :
    t.source rules ≠ [] := by
  cases h with
  | quoted hlit h => cases h <;> simp [BlockToken.source]
  | comment => simp [BlockToken.source]
  | opening => exact rules.opening_ne
  | closing => exact rules.closing_ne
  | other => simp [BlockToken.source]

/-- A token stands at the start of a text that is not empty, and is found there. -/
theorem TokenAt.exists_next (hn : rules.nestable = true) {t : BlockToken} {rest : Text}
    (h : TokenAt rules t rest) :
    ∃ c s, t.source rules ++ rest = c :: s ∧ Piece.next rules c s = t.piece rest := by
  have hne : t.source rules ++ rest ≠ [] := by simp [h.source_ne_nil]
  obtain ⟨c, s, hs⟩ := List.exists_cons_of_ne_nil hne
  exact ⟨c, s, hs, h.next_eq hn hs.symm⟩

/-- Every text can be split into tokens. -/
theorem exists_splits (rules : BlockRules) (s : Text) :
    ∃ tokens left, Splits rules s tokens left := by
  induction hlen : s.length using Nat.strongRecOn generalizing s with
  | ind n ih =>
    cases s with
    | nil => exact ⟨[], [], .done⟩
    | cons c s =>
      obtain hquote | ⟨t, rest, ht, hs⟩ := exists_tokenAt rules c s
      · exact ⟨[], c :: s, .openQuote hquote⟩
      · have hshort : rest.length < n := by
          have hpos := List.length_pos_iff.2 ht.source_ne_nil
          rw [← hlen, hs, List.length_append]
          omega
        obtain ⟨tokens, left, hmore⟩ := ih rest.length hshort rest rfl
        rw [hs]
        exact ⟨t :: tokens, left, .cons ht hmore⟩

theorem Splits.of_nil {left : Text} {tokens : List BlockToken} (h : Splits rules [] tokens left) :
    tokens = [] ∧ left = [] := by
  generalize hs : ([] : Text) = s at h
  cases h with
  | done => exact ⟨rfl, rfl⟩
  | openQuote h => exact ⟨rfl, rfl⟩
  | cons ht more => exact absurd (List.append_eq_nil_iff.1 hs.symm).1 ht.source_ne_nil

/-- A text is split at the piece that stands at its start. -/
theorem Splits.of_cons (hn : rules.nestable = true) {c : Char} {s left : Text}
    {tokens : List BlockToken} (h : Splits rules (c :: s) tokens left) :
    (Piece.next rules c s = .openQuote ∧ tokens = [] ∧ left = c :: s) ∨
      ∃ t rest more, Piece.next rules c s = t.piece rest ∧ tokens = t :: more ∧
        Splits rules rest more left := by
  generalize hs : c :: s = text at h
  cases h with
  | done => exact absurd hs (by simp)
  | openQuote h =>
    subst hs
    exact .inl ⟨h.next_eq, rfl, rfl⟩
  | @cons t rest _ more ht hmore => exact .inr ⟨t, rest, more, ht.next_eq hn hs, rfl, hmore⟩

/-- A text can be split into tokens in one way only. -/
theorem Splits.unique (hn : rules.nestable = true) {s left left' : Text}
    {tokens tokens' : List BlockToken} (h : Splits rules s tokens left)
    (h' : Splits rules s tokens' left') : tokens' = tokens ∧ left' = left := by
  induction h generalizing tokens' with
  | done => exact h'.of_nil
  | @openQuote s h =>
    cases s with
    | nil => exact h'.of_nil
    | cons c s =>
      obtain ⟨-, htokens, hleft⟩ | ⟨t, rest, more, hnext, -⟩ := h'.of_cons hn
      · exact ⟨htokens, hleft⟩
      · exact absurd (hnext.symm.trans h.next_eq) (t.piece_ne_openQuote rest)
  | @cons t rest left tokens ht more ih =>
    obtain ⟨c, s, hs, hnext⟩ := ht.exists_next hn
    rw [hs] at h'
    obtain ⟨hopen, -⟩ | ⟨t', rest', more', hnext', rfl, hmore⟩ := h'.of_cons hn
    · exact absurd (hnext.symm.trans hopen) (t.piece_ne_openQuote rest)
    · obtain ⟨rfl, rfl⟩ := BlockToken.piece_inj (hnext.symm.trans hnext')
      obtain ⟨rfl, hleft⟩ := ih hmore
      exact ⟨rfl, hleft⟩

/-! ## The first close token in excess -/

/-- The tokens, in a text where `depth` blocks are open inside the outermost one, and one close
token after them: the close tokens outnumber the open ones. -/
def Exceeds (depth : Nat) (tokens : List BlockToken) : Prop :=
  tokens.count .opening + depth < (tokens ++ [BlockToken.closing]).count .closing

/-- A close token that follows these tokens is the first with which the close tokens outnumber the
open ones. -/
def FirstExcess (depth : Nat) (before : List BlockToken) : Prop :=
  Exceeds depth before ∧ ∀ first last, before = first ++ .closing :: last → ¬ Exceeds depth first

theorem exceeds_nil {depth : Nat} : Exceeds depth [] ↔ depth = 0 := by
  simp [Exceeds]

/-- A token that ends no block leaves the rest to exceed the depth after it. -/
theorem exceeds_cons {depth : Nat} {t : BlockToken} {rest : Text} {tokens : List BlockToken}
    (h : ¬ (t.piece rest).Ends depth) :
    Exceeds depth (t :: tokens) ↔ Exceeds ((t.piece rest).depthAfter depth) tokens := by
  cases t with
  | closing =>
    have hdepth : depth ≠ 0 := h
    simp only [Exceeds, List.count_append, List.count_cons, BlockToken.piece, Piece.depthAfter]
    simp
    omega
  | opening =>
    simp only [Exceeds, List.count_append, List.count_cons, BlockToken.piece, Piece.depthAfter]
    simp
    omega
  | _ =>
    simp only [Exceeds, List.count_append, List.count_cons, BlockToken.piece, Piece.depthAfter]
    simp

theorem firstExcess_cons {depth : Nat} {t : BlockToken} {rest : Text} {before : List BlockToken}
    (h : ¬ (t.piece rest).Ends depth) :
    FirstExcess depth (t :: before) ↔ FirstExcess ((t.piece rest).depthAfter depth) before := by
  constructor
  · rintro ⟨hexceeds, hfirst⟩
    refine ⟨(exceeds_cons h).1 hexceeds, fun first last hsplit => ?_⟩
    rw [← exceeds_cons h]
    exact hfirst (t :: first) last (by rw [hsplit, List.cons_append])
  · rintro ⟨hexceeds, hfirst⟩
    refine ⟨(exceeds_cons h).2 hexceeds, fun first last hsplit => ?_⟩
    cases first with
    | nil =>
      obtain ⟨rfl, -⟩ := List.cons.inj hsplit
      exact fun hzero => h (exceeds_nil.1 hzero)
    | cons x first =>
      obtain ⟨rfl, hmore⟩ := List.cons.inj hsplit
      rw [exceeds_cons h]
      exact hfirst first last hmore

/-- The tokens in front of the first close token in excess are the text `body`. -/
def EndsAfter (rules : BlockRules) (depth : Nat) (tokens : List BlockToken) (body : Text) : Prop :=
  ∃ before after, tokens = before ++ .closing :: after ∧ FirstExcess depth before ∧
    body = sourceOfTokens rules before

theorem not_endsAfter_nil {depth : Nat} {body : Text} : ¬ EndsAfter rules depth [] body := by
  simp [EndsAfter]

/-- In front of a close token that ends the block right away there is nothing. -/
theorem endsAfter_closing {tokens : List BlockToken} {body : Text} :
    EndsAfter rules 0 (.closing :: tokens) body ↔ body = [] := by
  constructor
  · rintro ⟨before, after, hsplit, hfirst, rfl⟩
    cases before with
    | nil => rfl
    | cons t before =>
      obtain ⟨rfl, -⟩ := List.cons.inj hsplit
      exact absurd (exceeds_nil.2 rfl) (hfirst.2 [] before rfl)
  · rintro rfl
    exact ⟨[], tokens, rfl, ⟨exceeds_nil.2 rfl, by simp⟩, rfl⟩

/-- A token that ends no block stands in front of the close token that the tokens after it end
at. -/
theorem endsAfter_cons {depth : Nat} {t : BlockToken} {rest body : Text} {tokens : List BlockToken}
    (h : ¬ (t.piece rest).Ends depth) :
    EndsAfter rules depth (t :: tokens) body ↔
      ∃ b, EndsAfter rules ((t.piece rest).depthAfter depth) tokens b ∧
        body = t.source rules ++ b := by
  constructor
  · rintro ⟨before, after, hsplit, hfirst, rfl⟩
    cases before with
    | nil =>
      obtain ⟨rfl, -⟩ := List.cons.inj hsplit
      exact absurd (exceeds_nil.1 hfirst.1) h
    | cons x before =>
      obtain ⟨rfl, rfl⟩ := List.cons.inj hsplit
      exact ⟨_, ⟨before, after, rfl, (firstExcess_cons h).1 hfirst, rfl⟩, rfl⟩
  · rintro ⟨b, ⟨before, after, rfl, hfirst, rfl⟩, rfl⟩
    exact ⟨t :: before, after, rfl, (firstExcess_cons h).2 hfirst, rfl⟩

/-! ## The close search -/

theorem findClose_openQuote {depth : Nat} {c : Char} {s : Text}
    (h : Piece.next rules c s = .openQuote) :
    findClose rules depth (c :: s) = .error (.openQuote 0) := by
  rw [findClose]
  split <;> rename_i hp
  · rfl
  all_goals exact absurd (h.symm.trans hp) (by simp)

/-- The close search ends in front of the first close token in excess. -/
theorem Splits.findClose_iff (hn : rules.nestable = true) {s left : Text}
    {tokens : List BlockToken} (h : Splits rules s tokens left) {depth : Nat} {body : Text} :
    (∃ rest, findClose rules depth s = .ok (body, rest)) ↔ EndsAfter rules depth tokens body := by
  induction h generalizing depth body with
  | done =>
    rw [findClose]
    simp [not_endsAfter_nil]
  | @openQuote s h =>
    cases s with
    | nil =>
      rw [findClose]
      simp [not_endsAfter_nil]
    | cons c s =>
      rw [findClose_openQuote h.next_eq]
      simp [not_endsAfter_nil]
  | @cons t rest left tokens ht more ih =>
    obtain ⟨c, w, hs, hnext⟩ := ht.exists_next hn
    rw [hs]
    by_cases hend : (t.piece rest).Ends depth
    · -- the token is the close token that is looked for
      obtain ⟨rfl, rfl⟩ : t = .closing ∧ depth = 0 := by
        cases t with
        | closing => exact ⟨rfl, hend⟩
        | _ => exact hend.elim
      rw [findClose_done hnext, endsAfter_closing]
      simp [eq_comm]
    · -- the search goes on behind the token
      rw [findClose_step hnext (t.piece_ne_openQuote rest) hend, t.rest_piece, t.span_piece,
        endsAfter_cons hend]
      constructor
      · rintro ⟨r, hr⟩
        obtain ⟨b, hb, rfl⟩ := extendClose_eq_ok hr
        exact ⟨b, ih.1 ⟨r, hb⟩, rfl⟩
      · rintro ⟨b, hb, rfl⟩
        obtain ⟨r, hr⟩ := ih.2 hb
        exact ⟨r, by rw [hr]; rfl⟩

/-- Where the block that opens at offset `pos` of a text has its close delimiter. -/
def blockEnd? (rules : BlockRules) (text : Text) (pos : Nat) : Except ParseError Nat :=
  ((findClose rules 0 (text.drop (pos + rules.opening.length))).map fun found =>
    pos + rules.opening.length + found.1.length).mapError (CloseError.toParseError rules pos)

theorem blockEnd?_eq_ok_iff {text : Text} {pos i : Nat} :
    blockEnd? rules text pos = .ok i ↔
      ∃ body, (∃ rest, findClose rules 0 (text.drop (pos + rules.opening.length)) =
        .ok (body, rest)) ∧ i = pos + rules.opening.length + body.length := by
  unfold blockEnd?
  cases findClose rules 0 (text.drop (pos + rules.opening.length)) with
  | error e => simp [Except.map, Except.mapError]
  | ok found => simp [Except.map, Except.mapError, Prod.ext_iff, eq_comm]

theorem offset_of_blockEnd? {text : Text} {pos : Nat} {e : ParseError}
    (h : blockEnd? rules text pos = .error e) : e.offset = pos := by
  unfold blockEnd? at h
  cases hfound : findClose rules 0 (text.drop (pos + rules.opening.length)) with
  | ok found =>
    rw [hfound] at h
    exact absurd h (by simp [Except.map, Except.mapError])
  | error err =>
    rw [hfound] at h
    obtain rfl := Except.error.inj h
    exact offset_toParseError rules pos err

/-- The text inside a block starts behind the open delimiter. -/
theorem drop_opening {text inside : Text} {pos : Nat}
    (hopen : text.drop pos = rules.opening ++ inside) :
    text.drop (pos + rules.opening.length) = inside := by
  rw [← List.drop_drop, hopen, List.drop_left]

/-- Reading goes by `blockEnd?` at a block: it fails in the same way, or has the text up to the
close delimiter for the body and goes on behind it. -/
theorem lexemesFrom_blockEnd? {text inside : Text} {pos : Nat}
    (hopen : text.drop pos = rules.opening ++ inside) (hsingle : ¬ rules.opening <+: inside) :
    lexemesFrom rules pos (text.drop pos) =
      (blockEnd? rules text pos).bind fun i =>
        (lexemesFrom rules (i + rules.closing.length) (text.drop (i + rules.closing.length))).map
          (.block (inside.take (i - (pos + rules.opening.length))) :: ·) := by
  have hdrop := drop_opening hopen
  rw [hopen, lexemesFrom_opening, after?_eq_none_iff.2 hsingle, blockEnd?, hdrop]
  cases hfound : findClose rules 0 inside with
  | error e => rfl
  | ok found =>
    obtain ⟨body, rest⟩ := found
    have hinside := findClose_append hfound
    have hbody : inside.take body.length = body := by
      rw [hinside, List.append_assoc, List.take_left]
    have hrest : text.drop (pos + rules.opening.length + body.length + rules.closing.length) =
        rest := by
      rw [Nat.add_assoc, ← List.drop_drop, hdrop, hinside, ← List.length_append, List.drop_left]
    simp only [Except.map, Except.mapError, Except.bind, Nat.add_sub_cancel_left, hbody, hrest]
    simp only [Nat.add_assoc]

/-- The block that opens at offset `pos`, and whose text after the open delimiter is split into the
tokens, is closed at the first close token with which the close tokens outnumber the open ones. If
there is no such token, the block is refused by an error that names its offset. -/
structure EndsByTokens (rules : BlockRules) (text : Text) (pos : Nat) (tokens : List BlockToken) :
    Prop where
  closed : ∀ i, blockEnd? rules text pos = .ok i ↔
    ∃ before after, tokens = before ++ .closing :: after ∧ FirstExcess 0 before ∧
      i = pos + rules.opening.length + (sourceOfTokens rules before).length
  refused : (∃ e, blockEnd? rules text pos = .error e ∧ e.offset = pos) ↔
    ¬ ∃ before after, tokens = before ++ .closing :: after ∧ FirstExcess 0 before

theorem Splits.endsByTokens (hn : rules.nestable = true) {text inside left : Text} {pos : Nat}
    {tokens : List BlockToken} (h : Splits rules inside tokens left)
    (hopen : text.drop pos = rules.opening ++ inside) : EndsByTokens rules text pos tokens := by
  have hdrop := drop_opening hopen
  have hclosed : ∀ i, blockEnd? rules text pos = .ok i ↔
      ∃ before after, tokens = before ++ .closing :: after ∧ FirstExcess 0 before ∧
        i = pos + rules.opening.length + (sourceOfTokens rules before).length := by
    intro i
    rw [blockEnd?_eq_ok_iff, hdrop]
    constructor
    · rintro ⟨body, hbody, rfl⟩
      obtain ⟨before, after, hsplit, hfirst, rfl⟩ := (h.findClose_iff hn).1 hbody
      exact ⟨before, after, hsplit, hfirst, rfl⟩
    · rintro ⟨before, after, hsplit, hfirst, rfl⟩
      exact ⟨_, (h.findClose_iff hn).2 ⟨before, after, hsplit, hfirst, rfl⟩, rfl⟩
  refine ⟨hclosed, ?_, ?_⟩
  · rintro ⟨e, he, -⟩ ⟨before, after, hsplit, hfirst⟩
    have hok := (hclosed _).2 ⟨before, after, hsplit, hfirst, rfl⟩
    rw [he] at hok
    exact absurd hok (by simp)
  · intro hnone
    cases hend : blockEnd? rules text pos with
    | ok i =>
      obtain ⟨before, after, hsplit, hfirst, -⟩ := (hclosed i).1 hend
      exact absurd ⟨before, after, hsplit, hfirst⟩ hnone
    | error e => exact ⟨e, rfl, offset_of_blockEnd? hend⟩

/-- Between delimiters that differ, the text after an open delimiter is split into tokens in exactly
one way, and the block ends as these tokens say. -/
theorem blockEnd?_exact (hne : rules.opening ≠ rules.closing) {text inside : Text} {pos : Nat}
    (hopen : text.drop pos = rules.opening ++ inside) :
    ∃ tokens left, Splits rules inside tokens left ∧
      (∀ tokens' left', Splits rules inside tokens' left' → tokens' = tokens ∧ left' = left) ∧
      EndsByTokens rules text pos tokens := by
  have hn : rules.nestable = true := decide_eq_true hne
  obtain ⟨tokens, left, hsplits⟩ := exists_splits rules inside
  exact ⟨tokens, left, hsplits, fun _ _ h => hsplits.unique hn h, hsplits.endsByTokens hn hopen⟩

/-- A block with a nested one, and with close delimiters in quotes and in a comment, between
delimiters of which one starts with the other. -/
theorem blockEnd?_exact_nested :
    let rules : BlockRules := ⟨['<', '<'], ['<'], false, ['#'], by simp, by simp⟩
    let text := "a<<x<<y<'<'#<\n<b".toList
    let inside := "x<<y<'<'#<\n<b".toList
    rules.opening ≠ rules.closing ∧ text.drop 1 = rules.opening ++ inside ∧
      blockEnd? rules text 1 = .ok 14 ∧
      ∃ tokens left, Splits rules inside tokens left ∧
        (∀ tokens' left', Splits rules inside tokens' left' → tokens' = tokens ∧ left' = left) ∧
        EndsByTokens rules text 1 tokens := by
  intro rules text inside
  have hne : rules.opening ≠ rules.closing := by decide
  have hopen : text.drop 1 = rules.opening ++ inside := by decide
  exact ⟨hne, hopen, by decide +kernel, blockEnd?_exact hne hopen⟩

end Stencil.Template
