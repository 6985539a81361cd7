import Stencil.Proofs.Template.Source

/-!
# Where a template is at fault

The offset of an error splits a template in two. Main statement: `error_offset`, what stands in
front of the offset is a template without fault, and the block at the offset is at fault by itself:
it is never closed (`UnclosedAt`), or holds nothing but blanks (`EmptyAt`).
-/

namespace Stencil.Template

open Text

variable {rules : BlockRules}

theorem map_eq_error_iff {ε α β : Type} {f : α → β} {r : Except ε α} {e : ε} :
    r.map f = .error e ↔ r = .error e := by
  cases r <;> simp [Except.map]

/-! ## Blocks that are never closed -/

/-- The text starts with a block that is never closed. -/
def StartsUnclosed (rules : BlockRules) (s : Text) (e : CloseError) : Prop :=
  ∃ inside, s = rules.opening ++ inside ∧ ¬ rules.opening <+: inside ∧
    findClose rules 0 inside = .error e

/-- Reading stops right away at a block that is never closed. -/
theorem StartsUnclosed.lexemesFrom_eq {s : Text} {e : CloseError} (h : StartsUnclosed rules s e)
    (pos : Nat) : lexemesFrom rules pos s = .error (e.toParseError rules pos) := by
  obtain ⟨inside, rfl, hsingle, hclose⟩ := h
  rw [lexemesFrom_opening, after?_eq_none_iff.2 hsingle, hclose]

/-- After some lexemes of a text that starts at offset `pos` comes a block that is never closed, and
`e` is the error that names it. -/
def StopsUnclosed (rules : BlockRules) (pos : Nat) (s : Text) (e : ParseError) : Prop :=
  ∃ ls left err, Begins rules s ls left ∧ StartsUnclosed rules left err ∧
    e = err.toParseError rules (pos + (sourceOf rules ls).length)

theorem StopsUnclosed.cons {pos next : Nat} {s rest : Text} {l : Lexeme} {e : ParseError}
    (hstart : Starts rules s l rest) (hnext : next = pos + (l.source rules).length)
    (h : StopsUnclosed rules next rest e) : StopsUnclosed rules pos s e := by
  obtain ⟨ls, left, err, hbegins, hleft, rfl⟩ := h
  refine ⟨l :: ls, left, err, .cons hstart hbegins, hleft, ?_⟩
  rw [hnext, sourceOf_cons, List.length_append, Nat.add_assoc]

/-- Reading fails only at a block that is never closed. -/
theorem stopsUnclosed_of_error {pos : Nat} {s : Text} {e : ParseError}
    (h : lexemesFrom rules pos s = .error e) : StopsUnclosed rules pos s e := by
  fun_induction lexemesFrom rules pos s with
  | case1 => exact absurd h (by simp)
  | case2 pos c s inside ho rest hd ih =>
    have hmore := ih (map_eq_error_iff.1 h)
    rw [after?_eq_some_iff.1 ho, after?_eq_some_iff.1 hd]
    exact hmore.cons .escapedOpen (by simp [Lexeme.source, Nat.two_mul])
  | case3 pos c s inside ho hd err hf =>
    obtain rfl := Except.error.inj h
    have hleft : StartsUnclosed rules (c :: s) err :=
      ⟨inside, after?_eq_some_iff.1 ho, after?_eq_none_iff.1 hd, hf⟩
    exact ⟨[], c :: s, err, .nil, hleft, rfl⟩
  | case4 pos c s inside ho hd body rest hf size =>
    rename_i ih
    have hmore := ih (map_eq_error_iff.1 h)
    rw [after?_eq_some_iff.1 ho]
    exact hmore.cons (.block (after?_eq_none_iff.1 hd) (findClose_eq_ok_iff.1 hf))
      (by simp [Lexeme.source, size, Nat.add_assoc])
  | case5 pos c s ho rest hc ih =>
    have hmore := ih (map_eq_error_iff.1 h)
    rw [after?_eq_some_iff.1 hc] at ho ⊢
    exact hmore.cons (.escapedClose (after?_eq_none_iff.1 ho))
      (by simp [Lexeme.source, Nat.two_mul])
  | case6 pos c s ho hc ih =>
    have hmore := ih (map_eq_error_iff.1 h)
    exact hmore.cons (.char (after?_eq_none_iff.1 ho) (after?_eq_none_iff.1 hc)) rfl

theorem scan_of_lexes {text : Text} {ls : List Lexeme} (h : Lexes rules text ls) :
    scan rules text = .ok (spans rules ls) := by
  rw [scan, lexemes, lexemesFrom_eq_ok_iff.2 h]
  rfl

/-- The block that opens at offset `p` is never closed: an open delimiter that is not doubled stands
there, the text in front of it can be scanned, and the text from it on fails where it starts. -/
structure UnclosedAt (rules : BlockRules) (text : Text) (p : Nat) : Prop where
  opening : rules.opening <+: text.drop p
  single : ¬ rules.opening ++ rules.opening <+: text.drop p
  front : ∃ regions, scan rules (text.take p) = .ok regions
  back : ∃ e, scan rules (text.drop p) = .error e ∧ e.offset = 0

theorem unclosedAt_of_error {text : Text} {e : ParseError} (h : scan rules text = .error e) :
    UnclosedAt rules text e.offset := by
  obtain ⟨ls, left, err, hbegins, hleft, rfl⟩ := stopsUnclosed_of_error (map_eq_error_iff.1 h)
  -- the offset cuts the text between the lexemes that were read and the block
  rw [offset_toParseError, Nat.zero_add, hbegins.append]
  have hback : scan rules left = .error (err.toParseError rules 0) := by
    rw [scan, lexemes, hleft.lexemesFrom_eq]
    rfl
  refine ⟨?_, ?_, ?_, ?_⟩
  all_goals simp only [List.drop_left, List.take_left]
  · obtain ⟨inside, rfl, -, -⟩ := hleft
    exact List.prefix_append _ _
  · obtain ⟨inside, rfl, hsingle, -⟩ := hleft
    rwa [List.prefix_append_right_inj]
  · exact ⟨_, scan_of_lexes hbegins.lexes_source⟩
  · exact ⟨_, hback, offset_toParseError ..⟩

/-! ## Blocks without an expression -/

/-- Lexemes give no segments where one of them is a blank block, and the first of these is the one
that is reported. -/
theorem blank_of_segmentsFrom_error {pos : Nat} {ls : List Lexeme} {e : ParseError}
    (h : segmentsFrom rules pos ls = .error e) :
    ∃ first body last segs, ls = first ++ .block body :: last ∧ allBlank body = true ∧
      segmentsFrom rules pos first = .ok segs ∧
      e = .emptyBlock (pos + (sourceOf rules first).length) := by
  induction ls generalizing pos with
  | nil => exact absurd h (by simp [segmentsFrom])
  | cons l ls ih =>
    -- past a lexeme that is no blank block, the fault lies in the lexemes after it
    have hlater {add : List Segment → List Segment}
        (hadd : ∀ ms, segmentsFrom rules pos (l :: ms) =
          (segmentsFrom rules (pos + (l.source rules).length) ms).map add) :
        ∃ first body last segs, l :: ls = first ++ .block body :: last ∧ allBlank body = true ∧
          segmentsFrom rules pos first = .ok segs ∧
          e = .emptyBlock (pos + (sourceOf rules first).length) := by
      rw [hadd, map_eq_error_iff] at h
      obtain ⟨first, body, last, segs, rfl, hblank, hsegs, rfl⟩ := ih h
      refine ⟨l :: first, body, last, add segs, rfl, hblank, ?_, ?_⟩
      · rw [hadd, hsegs]
        rfl
      · rw [sourceOf_cons, List.length_append, Nat.add_assoc]
    cases hl : l.literal? rules with
    | some t => exact hlater (segmentsFrom_literal hl pos)
    | none =>
      obtain ⟨body, rfl⟩ := Lexeme.eq_block_of_literal?_eq_none hl
      cases hb : allBlank body with
      | false => exact hlater (segmentsFrom_block hb pos)
      | true =>
        have he : ParseError.emptyBlock pos = e := by simpa [segmentsFrom, hb] using h
        exact ⟨[], body, ls, [], rfl, hb, rfl, he.symm⟩

/-- The block that opens at offset `p` holds nothing but blanks, and the text in front of it can be
parsed. -/
structure EmptyAt (rules : BlockRules) (text : Text) (p : Nat) : Prop where
  blank : ∃ blanks rest, allBlank blanks = true ∧
    text.drop p = rules.opening ++ blanks ++ rules.closing ++ rest
  front : ∃ segs, parse rules (text.take p) = .ok segs

theorem emptyAt_of_error {text : Text} {regions : List Span} {e : ParseError}
    (hscan : scan rules text = .ok regions) (h : parse rules text = .error e) :
    EmptyAt rules text e.offset := by
  obtain ⟨ls, hls, -⟩ := map_eq_ok_iff.1 hscan
  have hlexes : Lexes rules text ls := lexemesFrom_eq_ok_iff.1 hls
  rw [parse_of_lexes hlexes] at h
  obtain ⟨first, body, last, segs, rfl, hblank, hsegs, rfl⟩ := blank_of_segmentsFrom_error h
  have hoffset : (ParseError.emptyBlock (0 + (sourceOf rules first).length)).offset =
      (sourceOf rules first).length := Nat.zero_add _
  rw [hoffset, hlexes.append, sourceOf_append, sourceOf_cons]
  refine ⟨⟨body, sourceOf rules last, hblank, ?_⟩, ⟨segs, ?_⟩⟩
  · rw [List.drop_left]
    rfl
  · rw [List.take_left]
    exact parse_eq_ok_iff.2 ⟨first, hlexes.source_left, hsegs⟩

/-! ## Errors in general -/

/-- An error names the block at fault. When a template cannot be scanned, that block is never
closed, and when it can be scanned and not be parsed, the block holds nothing but blanks; the
template is without fault up to there. -/
theorem error_offset (rules : BlockRules) (text : Text) :
    (∀ e, scan rules text = .error e → UnclosedAt rules text e.offset) ∧
    ∀ regions e, scan rules text = .ok regions → parse rules text = .error e →
      EmptyAt rules text e.offset :=
  ⟨fun _ => unclosedAt_of_error, fun _ _ => emptyAt_of_error⟩

/-- A quote of three characters that is never closed, and a block of one blank, both after a block
or a doubled delimiter, where the open delimiter starts with the close delimiter. -/
theorem error_offset_overlapping :
    let rules : BlockRules := ⟨['<', '<'], ['<'], false, ['#'], by simp, by simp⟩
    let quote := "a<<x<b<<c'''d'".toList
    let blank := "a<<<<b<< <c".toList
    (∃ e, scan rules quote = .error e ∧ e.offset = 6 ∧ UnclosedAt rules quote 6) ∧
      ∃ regions e, scan rules blank = .ok regions ∧ parse rules blank = .error e ∧
        e.offset = 6 ∧ EmptyAt rules blank 6 := by
  intro rules quote blank
  have hscan : scan rules quote = .error (.openQuote 9 6) := by decide +kernel
  have hregions : scan rules blank = .ok
      [⟨.plain, ['a']⟩, ⟨.escapedOpen, "<<<<".toList⟩, ⟨.plain, ['b']⟩, ⟨.opening, "<<".toList⟩,
        ⟨.plain, [' ']⟩, ⟨.closing, ['<']⟩, ⟨.plain, ['c']⟩] := by
    decide +kernel
  have hparse : parse rules blank = .error (.emptyBlock 6) := by decide +kernel
  exact ⟨⟨_, hscan, rfl, (error_offset rules quote).1 _ hscan⟩,
    _, _, hregions, hparse, rfl, (error_offset rules blank).2 _ _ hregions hparse⟩

end Stencil.Template
