import Stencil.Proofs.Template.Quotation

/-!
# Where a quoted span ends

A quoted span is the part of a text from its first quote character up to the first terminator that
is not escaped (`IsQuotedPart`). Main statement: `quotedEnd?_exact`, skipping a quoted span goes
exactly to the end of that part, and fails only if there is none.
-/

namespace Stencil.Template

open Text

/-- The offset behind the quoted span that starts at offset `start` of a text, if it ends. -/
def quotedEnd? (text : Text) (start : Nat) : Option Nat :=
  text[start]?.bind fun q =>
    (quoted? q (text.drop (start + 1))).map fun found => start + found.1.length

/-- What a quoted span that starts at offset `start` with the character `q` has at both of its ends:
three quotation marks if three of them stand there, and otherwise the character. -/
def quoteMarks (text : Text) (start : Nat) (q : Char) : Text :=
  if (q = '\'' ∨ q = '"') ∧ [q, q, q] <+: text.drop start then [q, q, q] else [q]

/-- The part of a text from offset `start` to offset `stop` is the marks, a body, and the marks
again. The body is made of escaped characters, and of characters that are no backslash and at which
the marks do not start. -/
def IsQuotedPart (marks text : Text) (start stop : Nat) : Prop :=
  stop ≤ text.length ∧ ∃ body, (text.take stop).drop start = marks ++ body ++ marks ∧
    QuotedBody marks (text.drop stop) body

/-! ## Parts of a text -/

theorem drop_of_getElem? {text : Text} {start : Nat} {q : Char} (hat : text[start]? = some q) :
    text.drop start = q :: text.drop (start + 1) := by
  obtain ⟨hlt, rfl⟩ := List.getElem?_eq_some_iff.1 hat
  exact List.drop_eq_getElem_cons hlt

/-- A part that is not empty stands where the text after its start goes on with it. -/
theorem take_drop_eq_iff {text span : Text} {start stop : Nat} (hne : span ≠ []) :
    (stop ≤ text.length ∧ (text.take stop).drop start = span) ↔
      text.drop start = span ++ text.drop stop ∧ start + span.length = stop := by
  have hpos : 0 < span.length := List.length_pos_iff.2 hne
  constructor
  · rintro ⟨hstop, rfl⟩
    rw [List.length_drop, List.length_take, Nat.min_eq_left hstop] at hpos ⊢
    have hstart : start ≤ (text.take stop).length := by
      rw [List.length_take]
      omega
    refine ⟨?_, by omega⟩
    rw [← List.drop_append_of_le_length hstart, List.take_append_drop]
  · rintro ⟨hdrop, rfl⟩
    have hlength := congrArg List.length hdrop
    rw [List.length_append, List.length_drop, List.length_drop] at hlength
    refine ⟨by omega, ?_⟩
    rw [List.drop_take, hdrop, Nat.add_sub_cancel_left, List.take_left]

theorem IsQuotedPart.lt_and_le {marks text : Text} {start stop : Nat} (hne : marks ≠ [])
    (h : IsQuotedPart marks text start stop) : start < stop ∧ stop ≤ text.length := by
  obtain ⟨hstop, body, hpart, -⟩ := h
  have hspan : marks ++ body ++ marks ≠ [] := by simp [hne]
  have hend := ((take_drop_eq_iff hspan).1 ⟨hstop, hpart⟩).2
  have hpos : 0 < (marks ++ body ++ marks).length := List.length_pos_iff.2 hspan
  exact ⟨by omega, hstop⟩

/-! ## The search for the end -/

/-- The search finds the body in front of the terminator, and the text is made of the span and of
what follows it. -/
theorem quoted?_eq_some_iff_body {q : Char} (hq : q ≠ '\\') {s span rest : Text} :
    quoted? q s = some (span, rest) ↔
      q :: s = span ++ rest ∧ ∃ body, span = terminator q s ++ body ++ terminator q s ∧
        QuotedBody (terminator q s) rest body := by
  obtain ⟨more, hmore⟩ : ∃ more, terminator q s = q :: more := by
    obtain ⟨hstop, -⟩ | ⟨hstop, -⟩ := terminator_cases q s
    · exact ⟨_, hstop⟩
    · exact ⟨_, hstop⟩
  have hstart := terminator_append_drop q s
  rw [quoted?]
  generalize (q :: s).drop (terminator q s).length = inside at hstart
  rw [hstart, hmore]
  constructor
  · intro h
    obtain ⟨⟨body, r⟩, hfound, heq⟩ := Option.map_eq_some_iff.1 h
    obtain ⟨rfl, rfl⟩ := Prod.mk.inj heq
    obtain ⟨rfl, hbody⟩ := (untilUnescaped?_eq_some_iff hq).1 hfound
    exact ⟨by simp, body, rfl, hbody⟩
  · rintro ⟨hsplit, body, rfl, hbody⟩
    have hinside : inside = body ++ q :: more ++ rest := by simpa using hsplit
    rw [(untilUnescaped?_eq_some_iff hq).2 ⟨hinside, hbody⟩]
    rfl

section

variable {text : Text} {start : Nat} {q : Char} (hat : text[start]? = some q)
  (hquote : isQuote q = true)
include hat hquote

/-- The end of a quoted span is searched for by its marks. -/
theorem terminator_eq_quoteMarks :
    terminator q (text.drop (start + 1)) = quoteMarks text start q := by
  have hmark : q ≠ '\x60' ↔ q = '\'' ∨ q = '"' := by
    obtain rfl | rfl | rfl := isQuote_iff.1 hquote <;> decide
  have hstart : [q, q, q] <+: text.drop start ↔ [q, q] <+: text.drop (start + 1) := by
    rw [drop_of_getElem? hat, List.prefix_cons_inj]
  simp only [terminator, quoteMarks, hmark, hstart, startsWith_iff]

/-- Skipping ends where a part ends that is a quoted span. -/
theorem quotedEnd?_eq_some_iff {stop : Nat} :
    quotedEnd? text start = some stop ↔
      IsQuotedPart (quoteMarks text start q) text start stop := by
  have hdrop := drop_of_getElem? hat
  have hmarks := terminator_eq_quoteMarks hat hquote
  have hfound (span rest : Text) : quoted? q (text.drop (start + 1)) = some (span, rest) ↔
      text.drop start = span ++ rest ∧
        ∃ body, span = quoteMarks text start q ++ body ++ quoteMarks text start q ∧
          QuotedBody (quoteMarks text start q) rest body := by
    rw [hdrop, ← hmarks]
    exact quoted?_eq_some_iff_body (ne_backslash_of_isQuote hquote)
  have hne (body : Text) : quoteMarks text start q ++ body ++ quoteMarks text start q ≠ [] := by
    simp [← hmarks, terminator_ne_nil]
  rw [quotedEnd?, hat, Option.bind_some, Option.map_eq_some_iff]
  constructor
  · rintro ⟨⟨span, rest⟩, hspan, hend⟩
    obtain ⟨hsplit, body, rfl, hbody⟩ := (hfound _ _).1 hspan
    have hrest : text.drop stop = rest := by
      rw [← hend, ← List.drop_drop, hsplit, List.drop_left]
    obtain ⟨hstop, hpart⟩ := (take_drop_eq_iff (hne body)).2 ⟨hrest.symm ▸ hsplit, hend⟩
    exact ⟨hstop, body, hpart, hrest.symm ▸ hbody⟩
  · rintro ⟨hstop, body, hpart, hbody⟩
    obtain ⟨hsplit, hend⟩ := (take_drop_eq_iff (hne body)).1 ⟨hstop, hpart⟩
    exact ⟨_, (hfound _ _).2 ⟨hsplit, body, rfl, hbody⟩, hend⟩

/-- At a quote character, skipping gives the offset where a quoted span ends that starts there, if
there is such an offset, and otherwise fails. The span is not empty and ends within the text. -/
theorem quotedEnd?_exact :
    (∀ stop, quotedEnd? text start = some stop ↔
      IsQuotedPart (quoteMarks text start q) text start stop) ∧
    (quotedEnd? text start = none ↔
      ∀ stop, ¬ IsQuotedPart (quoteMarks text start q) text start stop) ∧
    ∀ stop, quotedEnd? text start = some stop → start < stop ∧ stop ≤ text.length := by
  have hend (stop : Nat) : quotedEnd? text start = some stop ↔
      IsQuotedPart (quoteMarks text start q) text start stop := quotedEnd?_eq_some_iff hat hquote
  have hne : quoteMarks text start q ≠ [] :=
    terminator_eq_quoteMarks hat hquote ▸ terminator_ne_nil q _
  refine ⟨hend, ?_, fun stop h => ((hend stop).1 h).lt_and_le hne⟩
  rw [Option.eq_none_iff_forall_ne_some]
  exact forall_congr' fun stop => not_congr (hend stop)

end

/-- Four quotation marks in a row open a span in which the last of them is text, an escaped one does
not end it, and of five at its end the first is escaped and the last stands behind the span. -/
theorem quotedEnd?_exact_runs :
    let text : Text := "x''''a\\'''''z".toList
    text[1]? = some '\'' ∧ isQuote '\'' = true ∧ quoteMarks text 1 '\'' = ['\'', '\'', '\''] ∧
      IsQuotedPart ['\'', '\'', '\''] text 1 11 ∧
      ∀ stop, IsQuotedPart ['\'', '\'', '\''] text 1 stop → stop = 11 := by
  intro text
  have hat : text[1]? = some '\'' := rfl
  have hquote : isQuote '\'' = true := rfl
  have hmarks : quoteMarks text 1 '\'' = ['\'', '\'', '\''] := by decide
  have hend : quotedEnd? text 1 = some 11 := by decide
  have hexact := (quotedEnd?_exact hat hquote).1
  rw [hmarks] at hexact
  refine ⟨hat, hquote, hmarks, (hexact 11).1 hend, fun stop hstop => ?_⟩
  exact Option.some.inj (((hexact stop).2 hstop).symm.trans hend)

end Stencil.Template
