import Stencil.Proofs.Template.CloseSearch

/-!
# What a quoted span is

A quoted span is a terminator, a body and the terminator again (`Quotation`), where the body is made
of escaped characters and of characters at which the terminator does not start (`QuotedBody`). Main
statement: `quoted?_eq_some_iff`, the search for the end of a quoted span finds these spans and no
others.
-/

namespace Stencil.Template

open Text

/-- A text that may stand between two terminators in front of `rest`: characters that a backslash
escapes, and characters that are no backslash and at which the terminator does not start. -/
inductive QuotedBody (stop rest : Text) : Text → Prop
  | nil : QuotedBody stop rest []
  | escaped (c : Char) {body : Text} (hbody : QuotedBody stop rest body) :
      QuotedBody stop rest ('\\' :: c :: body)
  | char {c : Char} {body : Text} (hc : c ≠ '\\')
      (hstop : ¬ stop <+: c :: (body ++ stop ++ rest)) (hbody : QuotedBody stop rest body) :
      QuotedBody stop rest (c :: body)

/-- The text `span` is a quoted span in front of `rest`. Three quotation marks in a row start one
that three of them end; backticks never come in threes. -/
inductive Quotation : (span rest : Text) → Prop
  | triple {q : Char} {body rest : Text} (hq : q = '\'' ∨ q = '"')
      (hbody : QuotedBody [q, q, q] rest body) : Quotation ([q, q, q] ++ body ++ [q, q, q]) rest
  | single {q : Char} {body rest : Text} (hq : isQuote q = true)
      (hone : q = '`' ∨ ¬ [q, q, q] <+: [q] ++ body ++ [q] ++ rest)
      (hbody : QuotedBody [q] rest body) : Quotation ([q] ++ body ++ [q]) rest

/-- A quote does not follow the one that a body comes after. -/
theorem QuotedBody.head?_ne {q : Char} {rest body : Text} (hq : q ≠ '\\')
    (h : QuotedBody [q] rest body) : body.head? ≠ some q := by
  intro hhead
  cases h with
  | nil => exact absurd hhead (by simp)
  | escaped c _ => exact hq (Option.some.inj hhead).symm
  | @char c body _ hstop _ =>
    obtain rfl : c = q := Option.some.inj hhead
    exact hstop (List.prefix_append [c] _)

/-! ## Cutting what follows -/

/-- A body in front of a text is one in front of the start of that text. -/
theorem QuotedBody.of_append {stop rest t body : Text} (h : QuotedBody stop (rest ++ t) body) :
    QuotedBody stop rest body := by
  induction h with
  | nil => exact .nil
  | escaped c _ ih => exact .escaped c ih
  | @char c body hc hstop _ ih =>
    refine .char hc (fun hstart => hstop (hstart.trans ?_)) ih
    rw [← List.append_assoc, ← List.cons_append]
    exact List.prefix_append _ t

/-- A quoted span in front of a text is one in front of the start of that text. -/
theorem Quotation.of_append {span rest t : Text} (h : Quotation span (rest ++ t)) :
    Quotation span rest := by
  cases h with
  | triple hq hbody => exact .triple hq hbody.of_append
  | @single q body _ hq hone hbody =>
    refine .single hq (hone.imp_right fun hthree hstart => hthree (hstart.trans ?_)) hbody.of_append
    rw [← List.append_assoc]
    exact List.prefix_append _ t

/-! ## The search for a terminator -/

theorem isQuote_iff {q : Char} : isQuote q = true ↔ q = '\'' ∨ q = '"' ∨ q = '`' := by
  simp [isQuote, or_assoc]

theorem ne_backslash_of_isQuote {q : Char} (h : isQuote q = true) : q ≠ '\\' := by
  rintro rfl
  exact absurd h (by decide)

/-- The search for a terminator that does not start with a backslash finds the body in front of
it. -/
theorem untilUnescaped?_eq_some_iff {q : Char} {p s body rest : Text} (hq : q ≠ '\\') :
    untilUnescaped? (q :: p) s = some (body, rest) ↔
      s = body ++ (q :: p) ++ rest ∧ QuotedBody (q :: p) rest body := by
  constructor
  · intro h
    refine ⟨untilUnescaped?_append h, ?_⟩
    fun_induction untilUnescaped? (q :: p) s generalizing body rest with
    | case1 => simp at h
    | case2 => simp at h
    | case3 c s ih =>
      obtain ⟨⟨b, r⟩, hb, heq⟩ := Option.map_eq_some_iff.1 h
      obtain ⟨rfl, rfl⟩ := Prod.mk.inj heq
      exact .escaped c (ih hb)
    | case4 c s hc r hr =>
      obtain ⟨rfl, rfl⟩ := Prod.mk.inj (Option.some.inj h)
      exact .nil
    | case5 c s hc hr ih =>
      obtain ⟨⟨b, r⟩, hb, heq⟩ := Option.map_eq_some_iff.1 h
      obtain ⟨rfl, rfl⟩ := Prod.mk.inj heq
      have hstop := after?_eq_none_iff.1 hr
      rw [untilUnescaped?_append hb] at hstop
      exact .char hc hstop (ih hb)
  · rintro ⟨rfl, h⟩
    induction h with
    | nil =>
      have hat : after? (q :: p) (q :: (p ++ rest)) = some rest := after?_append (q :: p) rest
      rw [List.nil_append, List.cons_append, untilUnescaped?_cons hq, hat]
    | escaped c hbody ih =>
      rw [List.cons_append, List.cons_append, List.cons_append, List.cons_append,
        untilUnescaped?, ih]
      rfl
    | @char c body hc hstop hbody ih =>
      have hnone := after?_eq_none_iff.2 hstop
      rw [List.cons_append, List.cons_append, untilUnescaped?_cons hc, hnone, ih]
      rfl

/-! ## Quoted spans -/

theorem terminator_of_triple {q : Char} {s : Text} (hq : q ≠ '`') (h : [q, q] <+: s) :
    terminator q s = [q, q, q] :=
  if_pos ⟨hq, startsWith_iff.2 h⟩

theorem terminator_of_single {q : Char} {s : Text} (h : q = '`' ∨ ¬ [q, q, q] <+: q :: s) :
    terminator q s = [q] := by
  refine if_neg ?_
  rintro ⟨hq, hstart⟩
  rw [startsWith_iff] at hstart
  obtain h | h := h
  · exact hq h
  · exact h ((List.prefix_cons_inj q).2 hstart)

/-- Where three quotation marks stand is settled by the two after the first. -/
theorem terminator_cases (q : Char) (s : Text) :
    (terminator q s = [q, q, q] ∧ q ≠ '`') ∨
      (terminator q s = [q] ∧ (q = '`' ∨ ¬ [q, q, q] <+: q :: s)) := by
  by_cases hback : q = '`'
  · exact .inr ⟨terminator_of_single (.inl hback), .inl hback⟩
  by_cases hstart : [q, q] <+: s
  · exact .inl ⟨terminator_of_triple hback hstart, hback⟩
  · have hone : ¬ [q, q, q] <+: q :: s := fun h => hstart ((List.prefix_cons_inj q).1 h)
    exact .inr ⟨terminator_of_single (.inr hone), .inr hone⟩

/-- A quoted span starts at a quote character exactly where the search finds its end. -/
theorem quoted?_eq_some_iff {q : Char} {s span rest : Text} (hq : isQuote q = true) :
    quoted? q s = some (span, rest) ↔ q :: s = span ++ rest ∧ Quotation span rest := by
  have hslash := ne_backslash_of_isQuote hq
  constructor
  · intro h
    refine ⟨quoted?_append h, ?_⟩
    have happ := quoted?_append h
    obtain ⟨⟨body, r⟩, hbody, heq⟩ := Option.map_eq_some_iff.1 h
    obtain ⟨rfl, rfl⟩ := Prod.mk.inj heq
    obtain ⟨hstop, hback⟩ | ⟨hstop, hone⟩ := terminator_cases q s
    -- only marks that are no backtick can stand three times
    · rw [hstop] at hbody ⊢
      have hmark : q = '\'' ∨ q = '"' := by
        obtain hmark | hmark | hmark := isQuote_iff.1 hq
        · exact .inl hmark
        · exact .inr hmark
        · exact absurd hmark hback
      exact .triple hmark ((untilUnescaped?_eq_some_iff hslash).1 hbody).2
    · rw [hstop] at hbody happ ⊢
      rw [happ] at hone
      exact .single hq hone ((untilUnescaped?_eq_some_iff hslash).1 hbody).2
  · rintro ⟨happ, h⟩
    cases h with
    | @triple a body _ ha hbody =>
      obtain ⟨rfl, rfl⟩ : q = a ∧ s = [a, a] ++ (body ++ [a, a, a] ++ rest) := by
        simpa using happ
      have hback : q ≠ '`' := by
        rintro rfl
        exact absurd ha (by decide)
      have hstart := List.prefix_append [q, q] (body ++ [q, q, q] ++ rest)
      have hstop := terminator_of_triple hback hstart
      have hdrop : (q :: ([q, q] ++ (body ++ [q, q, q] ++ rest))).drop [q, q, q].length =
          body ++ [q, q, q] ++ rest := rfl
      have hfound := (untilUnescaped?_eq_some_iff hslash).2 ⟨rfl, hbody⟩
      rw [quoted?, hstop, hdrop, hfound]
      rfl
    | @single a body _ ha hone hbody =>
      obtain ⟨rfl, rfl⟩ : q = a ∧ s = body ++ [a] ++ rest := by
        simpa using happ
      have hstop : terminator q (body ++ [q] ++ rest) = [q] := terminator_of_single hone
      have hdrop : (q :: (body ++ [q] ++ rest)).drop [q].length = body ++ [q] ++ rest := rfl
      have hfound := (untilUnescaped?_eq_some_iff hslash).2 ⟨rfl, hbody⟩
      rw [quoted?, hstop, hdrop, hfound]
      rfl

end Stencil.Template
