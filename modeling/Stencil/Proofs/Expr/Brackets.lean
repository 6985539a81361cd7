import Mathlib.Data.List.Induction
import Stencil.Proofs.Expr.BlockEnd
import Stencil.Proofs.Template.Quotation

/-!
# Brackets of an expression

The brackets of a text are those outside its strings and comments (`bracketMarks?`); they are
balanced if each closes the one that was opened last, and none is left open (`Balanced`). Main
statement: `brackets_of_isExpression`. An expression is read between added round brackets, and all
brackets together match. So its own brackets are balanced, unless it closes the added bracket and
then opens one that takes its place.
-/

namespace Stencil.Expr

open Template Text

/-! ## Brackets in a text -/

/-- A bracket as it stands in a text. -/
inductive BracketMark
  | opening (b : Bracket)
  | closing (b : Bracket)
  deriving DecidableEq, Repr

/-- The bracket that a character is. -/
def bracketMark? (c : Char) : Option BracketMark :=
  match openingBracket? c with
  | some b => some (.opening b)
  | none => (closingBracket? c).map .closing

/-- The brackets of a text outside strings and comments, in order; nothing if a string never
ends. -/
def bracketMarks? : Text → Option (List BracketMark)
  | [] => some []
  | c :: s =>
    if c = '\'' ∨ c = '"' then
      match _h : quoted? c s with
      | some (_, rest) => bracketMarks? rest
      | none => none
    else if c = '#' then bracketMarks? (s.dropWhile (· ≠ '\n'))
    else (bracketMarks? s).map ((bracketMark? c).toList ++ ·)
termination_by s => s.length
decreasing_by
  · exact length_lt_of_quoted? _h
  · exact Nat.lt_succ_of_le (List.dropWhile_suffix _).length_le
  · simp

/-- The brackets that are open after reading brackets in order, the innermost first; nothing if one
closes no open bracket, or not the innermost one. -/
def openAfter : (opened : List Bracket) → List BracketMark → Option (List Bracket)
  | opened, [] => some opened
  | opened, .opening b :: ms => openAfter (b :: opened) ms
  | opened, .closing b :: ms => if opened.head? = some b then openAfter opened.tail ms else none

/-- Each bracket that closes matches the one opened last, and none is left open. -/
def Balanced (ms : List BracketMark) : Prop := openAfter [] ms = some []

instance : DecidablePred Balanced := fun ms =>
  inferInstanceAs (Decidable (openAfter [] ms = some []))

/-! ## Reading brackets -/

section

variable {opened opened' : List Bracket} {ms ns : List BracketMark} {b : Bracket}

theorem openAfter_append (opened : List Bracket) (ms ns : List BracketMark) :
    openAfter opened (ms ++ ns) = (openAfter opened ms).bind (openAfter · ns) := by
  fun_induction openAfter opened ms with
  | case1 => rfl
  | case2 opened b ms ih => exact ih
  | case3 opened b ms h ih =>
    rw [List.cons_append, openAfter, if_pos h]
    exact ih
  | case4 opened b ms h =>
    rw [List.cons_append, openAfter, if_neg h]
    rfl

/-- Reading on in front of an outer bracket: it stays open, and then it does not matter, or it is
closed at some point, with all brackets inside it closed before. -/
theorem openAfter_outer {ms : List BracketMark} (opened : List Bracket)
    (h : openAfter (opened ++ [b]) ms = some opened') :
    (∃ inside, openAfter opened ms = some inside ∧ opened' = inside ++ [b]) ∨
      ∃ first rest, ms = first ++ .closing b :: rest ∧ openAfter opened first = some [] ∧
        openAfter [] rest = some opened' := by
  induction ms generalizing opened with
  | nil =>
    obtain rfl := Option.some.inj h
    exact .inl ⟨opened, rfl, rfl⟩
  | cons m ms ih =>
    cases m with
    | opening c =>
      obtain ⟨inside, hinside, rfl⟩ | ⟨first, rest, rfl, hfirst, hrest⟩ :=
        ih (c :: opened) h
      · exact .inl ⟨inside, hinside, rfl⟩
      · exact .inr ⟨.opening c :: first, rest, rfl, hfirst, hrest⟩
    | closing c =>
      rw [openAfter] at h
      split at h
      · rename_i hhead
        cases opened with
        | nil =>
          -- only the outer bracket is open, and this one closes it
          obtain rfl : b = c := by simpa using hhead
          exact .inr ⟨[], ms, rfl, rfl, h⟩
        | cons d opened =>
          obtain rfl : d = c := by simpa using hhead
          have hstep (l : List BracketMark) :
              openAfter (d :: opened) (.closing d :: l) = openAfter opened l := by
            rw [openAfter, if_pos (by rfl)]
            rfl
          obtain ⟨inside, hinside, rfl⟩ | ⟨first, rest, rfl, hfirst, hrest⟩ := ih opened h
          · exact .inl ⟨inside, (hstep ms).trans hinside, rfl⟩
          · exact .inr ⟨.closing d :: first, rest, rfl, (hstep first).trans hfirst, hrest⟩
      · exact absurd h (by simp)

/-- The outermost bracket left open was opened at some point, where no other was open. -/
theorem exists_opening_of_openAfter (opened : List Bracket)
    (h : openAfter [] ms = some (opened ++ [b])) :
    ∃ middle last, ms = middle ++ .opening b :: last ∧ Balanced middle ∧
      openAfter [] last = some opened := by
  -- by the last bracket read: what was open before it has the same outermost bracket
  induction ms using List.reverseRecOn generalizing opened with
  | nil => exact absurd (Option.some.inj h) (by simp)
  | append_singleton ms m ih =>
    rw [openAfter_append] at h
    obtain ⟨before, hbefore, hm⟩ := Option.bind_eq_some_iff.1 h
    cases m with
    | opening c =>
      obtain hopened : c :: before = opened ++ [b] := Option.some.inj hm
      cases opened with
      | nil =>
        obtain ⟨rfl, rfl⟩ : c = b ∧ before = [] := by simpa using hopened
        exact ⟨ms, [], rfl, hbefore, rfl⟩
      | cons d opened =>
        obtain ⟨rfl, rfl⟩ : c = d ∧ before = opened ++ [b] := by simpa using hopened
        obtain ⟨middle, last, rfl, hmiddle, hlast⟩ := ih opened hbefore
        refine ⟨middle, last ++ [.opening c], by simp, hmiddle, ?_⟩
        rw [openAfter_append, hlast]
        rfl
    | closing c =>
      rw [openAfter] at hm
      split at hm
      · rename_i hhead
        cases before with
        | nil => exact absurd hhead (by simp)
        | cons d before =>
          obtain rfl : d = c := by simpa using hhead
          obtain rfl : before = opened ++ [b] := Option.some.inj hm
          obtain ⟨middle, last, rfl, hmiddle, hlast⟩ := ih (d :: opened) hbefore
          refine ⟨middle, last ++ [.closing d], by simp, hmiddle, ?_⟩
          rw [openAfter_append, hlast, Option.bind_some, openAfter, if_pos (by rfl)]
          rfl
      · exact absurd hm (by simp)

/-- Brackets that match inside an outer bracket match on their own, unless they close it and open
one of its kind in its place. -/
theorem balanced_or_of_openAfter (h : openAfter [b] ms = some [b]) :
    Balanced ms ∨ ∃ first middle last,
      ms = first ++ .closing b :: (middle ++ .opening b :: last) ∧
        Balanced first ∧ Balanced middle ∧ Balanced last := by
  obtain ⟨inside, hinside, hb⟩ | ⟨first, rest, rfl, hfirst, hrest⟩ :=
    openAfter_outer [] h
  · obtain rfl : inside = [] := by simpa using hb
    exact .inl hinside
  · obtain ⟨middle, last, rfl, hmiddle, hlast⟩ := exists_opening_of_openAfter [] hrest
    exact .inr ⟨first, middle, last, rfl, hfirst, hmiddle, hlast⟩

end

/-! ## Brackets between tokens -/

section

variable {c : Char} {s : Text}

theorem not_mem_of_bracketMark? {m : BracketMark} (h : bracketMark? c = some m) :
    c ∉ ['\'', '"', '#'] := by
  intro hc
  simp only [List.mem_cons, List.not_mem_nil, or_false] at hc
  obtain rfl | rfl | rfl := hc <;> exact absurd (h.symm.trans rfl) (Option.some_ne_none m)

theorem bracketMark?_eq_none (hc : c ∉ tokenMarks ∨ c = '\n') : bracketMark? c = none := by
  obtain hc | rfl := hc
  · have hopening : openingBracket? c = none := by
      unfold openingBracket?
      split
      · exact absurd (by decide) hc
      · exact absurd (by decide) hc
      · exact absurd (by decide) hc
      · rfl
    have hclosing : closingBracket? c = none := by
      unfold closingBracket?
      split
      · exact absurd (by decide) hc
      · exact absurd (by decide) hc
      · exact absurd (by decide) hc
      · rfl
    rw [bracketMark?, hopening, hclosing]
    rfl
  · rfl

theorem bracketMarks?_nil : bracketMarks? [] = some [] := by rw [bracketMarks?]

theorem bracketMarks?_cons (hc : c ∉ ['\'', '"', '#']) :
    bracketMarks? (c :: s) = (bracketMarks? s).map ((bracketMark? c).toList ++ ·) := by
  simp only [List.mem_cons, List.not_mem_nil, or_false, not_or] at hc
  rw [bracketMarks?, if_neg (by simp [hc]), if_neg hc.2.2]

/-- A bracket comes before those of the text after it. -/
theorem bracketMarks?_cons_mark {m : BracketMark} {ms : List BracketMark}
    (hc : bracketMark? c = some m) (hs : bracketMarks? s = some ms) :
    bracketMarks? (c :: s) = some (m :: ms) := by
  rw [bracketMarks?_cons (not_mem_of_bracketMark? hc), hc, hs]
  rfl

/-- Characters of other kinds leave the brackets as they are. -/
theorem bracketMarks?_cons_other (hc : c ∉ tokenMarks ∨ c = '\n') :
    bracketMarks? (c :: s) = bracketMarks? s := by
  have hquote : c ∉ ['\'', '"', '#'] := by
    obtain hc | rfl := hc
    · have hsub : ['\'', '"', '#'] ⊆ tokenMarks := by decide
      exact fun h => hc (hsub h)
    · decide
  rw [bracketMarks?_cons hquote, bracketMark?_eq_none hc]
  cases bracketMarks? s <;> rfl

theorem bracketMarks?_plain {w : Text} (hw : Plain w) :
    bracketMarks? (w ++ s) = bracketMarks? s := by
  induction w with
  | nil => rfl
  | cons c w ih =>
    obtain ⟨hc, hw⟩ := plain_cons.1 hw
    exact (bracketMarks?_cons_other (.inl hc)).trans (ih hw)

theorem bracketMarks?_quoted {q : Char} {span rest : Text} (hq : q = '\'' ∨ q = '"')
    (h : quoted? q s = some (span, rest)) : bracketMarks? (q :: s) = bracketMarks? rest := by
  rw [bracketMarks?, if_pos hq]
  split
  · rename_i hspan
    obtain ⟨-, rfl⟩ := Prod.mk.inj (Option.some.inj (hspan.symm.trans h))
    rfl
  · rename_i hspan
    exact absurd (hspan.symm.trans h) (by simp)

theorem bracketMarks?_comment :
    bracketMarks? ('#' :: s) = bracketMarks? (s.dropWhile (· ≠ '\n')) := by
  rw [bracketMarks?, if_neg (by decide), if_pos rfl]

end

/-- A token of an expression has no brackets. -/
theorem bracketMarks?_tokenText {s r rest : Text} (h : TokenText s rest) (hs : s = r ++ sourceEnd) :
    ∃ r', rest = r' ++ sourceEnd ∧ bracketMarks? r = bracketMarks? r' := by
  cases h with
  | @plain w _ hw =>
    have hnl : '\n' ∉ w := fun hmem => hw _ hmem (by decide)
    obtain ⟨r', rfl, hrest⟩ := split_before_newline hnl hs
    exact ⟨r', hrest, bracketMarks?_plain hw⟩
  | @quoted w s span _ q hw hmark hspan =>
    have hq : isQuote q = true := by obtain rfl | rfl := hmark <;> rfl
    obtain ⟨happ, hquotation⟩ := (quoted?_eq_some_iff hq).1 hspan
    obtain ⟨v, hv⟩ := exists_quoted?_eq hspan
    rw [happ, ← List.append_assoc, hv] at hs
    obtain ⟨r', rfl, rfl⟩ := split_after_quote hq hs
    -- the string is one in the expression, too
    obtain ⟨u, hu, -⟩ := quoted?_blockEnd hspan
    have hinside : quoted? q (u ++ r') = some (span, r') :=
      (quoted?_eq_some_iff hq).2 ⟨by rw [hu, List.cons_append], hquotation.of_append⟩
    refine ⟨r', rfl, ?_⟩
    rw [← hv, List.append_assoc, bracketMarks?_plain hw, hu, List.cons_append,
      bracketMarks?_quoted hmark hinside]

/-- Where a token starts, the brackets of what is left close all open brackets but the added one. -/
theorem openAfter_of_tokensIn {opened : List Bracket} {s : Text} {ts : List Token}
    (h : tokensIn opened s = some ts) {r : Text} (hs : s = r ++ sourceEnd) :
    ∃ ms, bracketMarks? r = some ms ∧ openAfter opened ms = some [.round] := by
  fun_induction tokensIn opened s generalizing ts r with
  | case1 => simp [sourceEnd] at hs
  | case2 => simp at h
  | case3 opened c s hc ih =>
    have hmark : '\n' ∉ [c] ∧ c ∉ tokenMarks := by obtain rfl | rfl | rfl := hc <;> decide
    obtain ⟨r', rfl, rfl⟩ := split_before_newline hmark.1 hs
    rw [List.singleton_append, bracketMarks?_cons_other (.inl hmark.2)]
    exact ih h rfl
  | case4 => simp at h
  | case5 opened s hopened _ ih =>
    cases r with
    | nil =>
      -- nothing but the added bracket closes, so it alone is open
      obtain rfl : s = [')'] := by simpa [sourceEnd] using hs
      obtain rfl := opened_of_tokensIn_end h
      exact ⟨[], bracketMarks?_nil, rfl⟩
    | cons c r =>
      rw [List.cons_append, List.cons.injEq] at hs
      obtain ⟨rfl, rfl⟩ := hs
      rw [bracketMarks?_cons_other (.inr rfl)]
      exact ih h rfl
  | case6 opened s hhead _ _ ih =>
    obtain ⟨r', rfl, rfl⟩ := split_before_newline (w := ['\\']) (by decide) hs
    rw [List.singleton_append, bracketMarks?_cons_other (.inl (by decide))]
    cases r' with
    | nil =>
      obtain rfl := opened_of_tokensIn_end h
      exact ⟨[], bracketMarks?_nil, rfl⟩
    | cons c r =>
      obtain rfl : c = '\n' := by simpa using hhead
      rw [bracketMarks?_cons_other (.inr rfl)]
      exact ih h rfl
  | case7 => simp at h
  | case8 opened s _ _ _ ih =>
    obtain ⟨r', rfl, rfl⟩ := split_before_newline (w := ['#']) (by decide) hs
    rw [List.singleton_append, bracketMarks?_comment]
    exact ih h (dropWhile_before_newline r' [')'])
  | case9 opened c s _ hnl _ hcomment b hb _ ih =>
    obtain ⟨ts', hts, -⟩ := Option.map_eq_some_iff.1 h
    obtain ⟨r', rfl, rfl⟩ := split_before_newline (w := [c]) (by simpa using Ne.symm hnl) hs
    obtain ⟨ms, hms, hopen⟩ := ih hts rfl
    have hmark : bracketMark? c = some (.opening b) := by rw [bracketMark?, hb]
    exact ⟨.opening b :: ms, bracketMarks?_cons_mark hmark hms, hopen⟩
  | case10 => simp at h
  | case11 opened c s _ hnl _ _ hnone b hb hopened ih =>
    obtain ⟨ts', hts, -⟩ := Option.map_eq_some_iff.1 h
    obtain ⟨r', rfl, rfl⟩ := split_before_newline (w := [c]) (by simpa using Ne.symm hnl) hs
    obtain ⟨ms, hms, hopen⟩ := ih hts rfl
    have hmark : bracketMark? c = some (.closing b) := by
      rw [bracketMark?, hnone, hb]
      rfl
    refine ⟨.closing b :: ms, bracketMarks?_cons_mark hmark hms, ?_⟩
    rw [openAfter, if_pos hopened]
    exact hopen
  | case12 => simp at h
  | case13 opened c s _ _ _ _ _ _ t rest htoken ih =>
    obtain ⟨ts', hts, -⟩ := Option.map_eq_some_iff.1 h
    obtain ⟨r', rfl, hmarks⟩ := bracketMarks?_tokenText (tokenText_of_token? htoken) hs
    rw [hmarks]
    exact ih hts rfl
  | case14 => simp at h

/-- The brackets of an expression outside its strings and comments are balanced, unless they close
the bracket added in front of the expression and open another one, which the bracket added after
it closes. -/
theorem brackets_of_isExpression {m : Machine} {text : Text} (h : isExpression m text = .ok true) :
    ∃ ms, bracketMarks? (unifyLines text) = some ms ∧
      (Balanced ms ∨ ∃ first middle last,
        ms = first ++ .closing .round :: (middle ++ .opening .round :: last) ∧
          Balanced first ∧ Balanced middle ∧ Balanced last) := by
  obtain ⟨ts, hts⟩ := tokensIn_of_isExpression h
  obtain ⟨ms, hms, hopen⟩ := openAfter_of_tokensIn hts rfl
  exact ⟨ms, hms, balanced_or_of_openAfter hopen⟩

/-- Brackets in strings and comments do not count, and the added brackets change places with those
of the expression. -/
theorem brackets_of_isExpression_string_and_comment :
    isExpression .standard "1) + len(')' # ]\n) + ('('".toList = .ok true ∧
      ∃ ms, bracketMarks? (unifyLines "1) + len(')' # ]\n) + ('('".toList) = some ms ∧
        (Balanced ms ∨ ∃ first middle last,
          ms = first ++ .closing .round :: (middle ++ .opening .round :: last) ∧
            Balanced first ∧ Balanced middle ∧ Balanced last) := by
  have h : isExpression .standard "1) + len(')' # ]\n) + ('('".toList = .ok true := by
    decide +kernel
  exact ⟨h, brackets_of_isExpression h⟩

/-- Not every expression has balanced brackets of its own. -/
theorem isExpression_closing_added_bracket :
    ¬ ∀ text, isExpression .standard text = .ok true →
      ∃ ms, bracketMarks? (unifyLines text) = some ms ∧ Balanced ms := by
  intro hall
  have hmarks : bracketMarks? (unifyLines "1) + (2".toList) =
      some [.closing .round, .opening .round] := by decide +kernel
  obtain ⟨ms, hms, hbalanced⟩ := hall "1) + (2".toList (by decide +kernel)
  obtain rfl := Option.some.inj (hmarks.symm.trans hms)
  exact absurd hbalanced (by decide)

end Stencil.Expr
