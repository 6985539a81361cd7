import Stencil.Proofs.Template.BlockTokens
import Stencil.Proofs.Template.ErrorOffset

/-!
# Blocks between colons

Where a block opens and closes with the same character, it ends at the next one that stands outside
quoted spans and comments. A text can be the whole of such a block if it can be read as quoted spans
and ordinary characters (`Legible`). Main statement: `parse_betweenColons`, a legible text without
colons and newlines is the only block of the template that has it between colons, and any other text
leaves the block unclosed.
-/

namespace Stencil.Template

open Text

variable {rules : BlockRules}

/-! ## Legible texts -/

/-- The text is made of quoted spans and of characters at which no quoted span and no comment
starts. -/
inductive Legible (rules : BlockRules) : Text → Prop
  | nil : Legible rules []
  | quoted {span rest : Text} (hliteral : rules.literal = false) (h : Quotation span rest)
      (more : Legible rules rest) : Legible rules (span ++ rest)
  | char {c : Char} {rest : Text} (h : StartsPlain rules (c :: rest))
      (more : Legible rules rest) : Legible rules (c :: rest)

/-- Rules that take quotes and comments for ordinary characters make every text legible. -/
theorem legible_of_literal (h : rules.literal = true) (s : Text) : Legible rules s := by
  induction s with
  | nil => exact .nil
  | cons c s ih => exact .char (.inl h) ih

/-! ## One character more -/

/-- The body of a quoted span is one in front of more text. -/
theorem QuotedBody.append {stop rest body : Text} (h : QuotedBody stop rest body) (t : Text) :
    QuotedBody stop (rest ++ t) body := by
  induction h with
  | nil => exact .nil
  | escaped c _ ih => exact .escaped c ih
  | @char c body hc hstop _ ih =>
    refine .char hc (fun hstart => hstop ?_) ih
    -- the terminator behind the body is long enough to settle that none starts in it
    have hlen : stop.length ≤ (c :: (body ++ stop)).length := by
      simp only [List.length_cons, List.length_append]
      omega
    exact (isPrefix_append_congr hlen rest (rest ++ t)).2 hstart

/-- A quoted span stays one when a character is added to the text that follows, unless that makes
its quotes three. -/
theorem Quotation.concat {span rest : Text} {d : Char} (h : Quotation span rest)
    (hd : isQuote d = false) : Quotation span (rest ++ [d]) := by
  cases h with
  | triple hq hbody => exact .triple hq (hbody.append [d])
  | @single q body _ hq hone hbody =>
    refine .single hq (hone.imp_right fun hthree hstart => ?_) (hbody.append [d])
    rw [← List.append_assoc, List.prefix_concat_iff] at hstart
    obtain hwhole | hstart := hstart
    · have hlast := congrArg List.getLast? hwhole
      rw [List.getLast?_concat] at hlast
      obtain rfl : q = d := Option.some.inj hlast
      exact absurd hq (by simp [hd])
    · exact hthree hstart

/-! ## Pieces of a block -/

/-- What stands at the start of a text: a quote, the start of a comment, or neither. -/
theorem Piece.next_cases (rules : BlockRules) (c : Char) (s : Text) :
    (rules.literal = false ∧ isQuote c = true ∧
      ((∃ span rest, quoted? c s = some (span, rest) ∧ next rules c s = .quoted span rest) ∨
        next rules c s = .openQuote)) ∨
    next rules c s = .comment (c :: s.takeWhile (· ≠ '\n')) (s.dropWhile (· ≠ '\n')) ∨
    (StartsPlain rules (c :: s) ∧ next rules c s = plain rules c s) := by
  obtain hplain | ⟨hliteral, hquote | ⟨hquote, hcomment⟩⟩ := startsPlain_or rules c s
  · exact .inr (.inr ⟨hplain, next_of_startsPlain hplain⟩)
  · refine .inl ⟨hliteral, hquote, ?_⟩
    cases hfound : quoted? c s with
    | none => exact .inr (by simp [next, hliteral, hquote, hfound])
    | some found => exact .inl ⟨found.1, found.2, rfl, by simp [next, hliteral, hquote, hfound]⟩
  · exact .inr (.inl (by simp [next, hliteral, hquote, hcomment]))

/-- Between colons there is a close delimiter or a single character where no quoted span and no
comment starts. -/
theorem plain_betweenColons (c : Char) (s : Text) :
    Piece.plain rules.betweenColons c s = if c = ':' then .closing s else .other c s := by
  have hnot : ¬ (rules.betweenColons.nestable = true ∧ rules.betweenColons.opening <+: c :: s) := by
    simp [BlockRules.nestable, BlockRules.betweenColons]
  rw [Piece.plain_of_not_opening hnot]
  have hclosing : rules.betweenColons.closing = [':'] := rfl
  rw [hclosing]
  by_cases hc : c = ':'
  · have hafter : after? [':'] (c :: s) = some s := by
      rw [after?_eq_some_iff, hc]
      rfl
    rw [hafter, if_pos hc]
  · have hafter : after? [':'] (c :: s) = none := by
      rw [after?_eq_none_iff]
      rintro ⟨t, ht⟩
      exact hc (List.cons.inj ht).1.symm
    rw [hafter, if_neg hc]

/-! ## The end of a block -/

section Colons

variable {s : Text}

/-- A block ends right behind a legible text. -/
theorem Legible.closes (h : Legible rules.betweenColons s) (hcolon : ':' ∉ s)
    (hplain : StartsPlain rules.betweenColons [':']) :
    Closes rules.betweenColons 0 (s ++ [':']) s [] := by
  induction h with
  | nil =>
    have hnext : Piece.next rules.betweenColons ':' [] = .closing [] := by
      rw [next_of_startsPlain hplain, plain_betweenColons, if_pos rfl]
    exact .done hnext
  | @quoted span rest hliteral hspan more ih =>
    obtain ⟨hspan', hrest⟩ : ':' ∉ span ∧ ':' ∉ rest := by simpa using hcolon
    obtain ⟨q, w, rfl⟩ : ∃ q w, span = q :: w := by
      cases hspan <;> exact ⟨_, _, rfl⟩
    have hquote : isQuote q = true := hspan.isQuote_head rfl
    have hfound : quoted? q (w ++ (rest ++ [':'])) = some (q :: w, rest ++ [':']) :=
      (quoted?_eq_some_iff hquote).2 ⟨rfl, hspan.concat rfl⟩
    have hnext : Piece.next rules.betweenColons q (w ++ (rest ++ [':'])) =
        .quoted (q :: w) (rest ++ [':']) := by
      simp [Piece.next, hliteral, hquote, hfound]
    rw [List.append_assoc]
    exact .step hnext (by simp) id (ih hrest)
  | @char c rest hc more ih =>
    obtain ⟨hne, hrest⟩ : ':' ≠ c ∧ ':' ∉ rest := by simpa using hcolon
    have hc : StartsPlain rules.betweenColons (c :: (rest ++ [':'])) := hc
    have hnext : Piece.next rules.betweenColons c (rest ++ [':']) = .other c (rest ++ [':']) := by
      rw [next_of_startsPlain hc, plain_betweenColons, if_neg hne.symm]
    exact .step hnext (by simp) id (ih hrest)

/-- The body of a block that ends at the end of the text is legible. -/
theorem legible_of_closes {body : Text} (hline : '\n' ∉ body)
    (h : Closes rules.betweenColons 0 s body []) : Legible rules.betweenColons body := by
  generalize hdepth : 0 = depth at h
  generalize hleft : [] = left at h
  induction h with
  | done => exact .nil
  | @step depth c s body left p hp hquote hend more ih =>
    subst hdepth hleft
    obtain ⟨-, hbodyline⟩ : '\n' ∉ p.span rules.betweenColons ∧ '\n' ∉ body := by
      simpa using hline
    have hbehind : p.rest = body ++ [':'] := by
      rw [more.append, List.append_nil]
      rfl
    obtain ⟨hliteral, hmark, ⟨span, rest, hfound, hnext⟩ | hnext⟩ | hnext | ⟨hplain, hnext⟩ :=
      Piece.next_cases rules.betweenColons c s
    all_goals obtain rfl := hp.symm.trans hnext
    · -- what follows the quoted span is the rest of the body and the colon
      obtain rfl : rest = body ++ [':'] := hbehind
      have hspan := ((quoted?_eq_some_iff hmark).1 hfound).2
      exact .quoted hliteral hspan.of_append (ih hbodyline rfl rfl)
    · exact absurd rfl hquote
    · -- a comment ends at a newline, and there is none in front of the colon
      have hstop := List.head?_dropWhile_not (· ≠ '\n') s
      have hdrop : s.dropWhile (· ≠ '\n') = body ++ [':'] := hbehind
      rw [hdrop] at hstop
      cases body with
      | nil => exact absurd hstop (by simp)
      | cons d body =>
        obtain rfl : d = '\n' := by simpa using hstop
        exact absurd (List.mem_cons_self ..) hbodyline
    · rw [plain_betweenColons] at hend ih ⊢
      by_cases hc : c = ':'
      · rw [if_pos hc] at hend
        exact absurd rfl hend
      · rw [if_neg hc] at ih ⊢
        exact .char hplain (ih hbodyline rfl rfl)

/-- A block is not closed behind a text that is not legible. -/
theorem exists_findClose_eq_error (hcolon : ':' ∉ s) (hline : '\n' ∉ s)
    (h : ¬ Legible rules.betweenColons s) :
    ∃ e, findClose rules.betweenColons 0 (s ++ [':']) = .error e := by
  cases hfound : findClose rules.betweenColons 0 (s ++ [':']) with
  | error e => exact ⟨e, rfl⟩
  | ok found =>
    obtain ⟨body, rest⟩ := found
    -- the close delimiter is the only colon, so it is the last character
    have happ : s ++ [':'] = body ++ [':'] ++ rest := findClose_append hfound
    obtain ⟨tail, hbody, htail⟩ | ⟨tail, rfl, -⟩ := List.append_eq_append_iff.1 happ
    · cases tail with
      | nil =>
        rw [List.append_nil] at hbody
        exact absurd (by simp [← hbody]) hcolon
      | cons c tail =>
        obtain ⟨rfl, hnil⟩ := List.cons.inj htail
        obtain ⟨rfl, rfl⟩ := List.append_eq_nil_iff.1 hnil.symm
        obtain rfl := List.append_cancel_right hbody
        exact absurd (legible_of_closes hline (findClose_eq_ok_iff.1 hfound)) h
    · exact absurd (by simp) hcolon

/-! ## Templates of one block -/

/-- A template that is a text between colons. -/
def betweenColons (s : Text) : Text := ':' :: (s ++ [':'])

/-- A legible text between colons is the only block of the template, and any other one leaves the
block unclosed. -/
theorem parse_betweenColons (hplain : StartsPlain rules.betweenColons [':']) (hcolon : ':' ∉ s)
    (hline : '\n' ∉ s) (hblank : allBlank s = false) :
    (Legible rules.betweenColons s →
      parse rules.betweenColons (betweenColons s) = .ok [.expression s 0 (s.length + 2)]) ∧
    (¬ Legible rules.betweenColons s →
      ∃ e, parse rules.betweenColons (betweenColons s) = .error e ∧ e.offset = 0) := by
  have hopen : ¬ rules.betweenColons.opening <+: s ++ [':'] := by
    cases s with
    | nil => exact absurd hblank (by simp [allBlank])
    | cons c s =>
      intro hstart
      obtain rfl : ':' = c := (List.cons_prefix_cons.1 hstart).1
      exact hcolon (List.mem_cons_self ..)
  constructor
  · intro h
    have hparse := parse_block hopen hblank (h.closes hcolon hplain)
    have hlen : (rules.betweenColons.opening ++ s ++ rules.betweenColons.closing).length =
        s.length + 2 := by
      simp [BlockRules.betweenColons]
    rw [hlen] at hparse
    exact hparse
  · intro h
    obtain ⟨e, he⟩ := exists_findClose_eq_error hcolon hline h
    have hstarts : StartsUnclosed rules.betweenColons (betweenColons s) e :=
      ⟨s ++ [':'], rfl, hopen, he⟩
    refine ⟨e.toParseError rules.betweenColons 0, ?_, offset_toParseError ..⟩
    rw [parse, lexemes, hstarts.lexemesFrom_eq]
    rfl

end Colons

end Stencil.Template
