import Mathlib.Data.List.Basic
import Stencil.Proofs.Template.Lexing
import Stencil.Template.Segment

/-!
# The source of a parsed template

The segments of a template spell it (`unparse_parse`), and any run of neighbouring segments is what
its own source parses to, up to the offsets (`parse_unparse_run`). Both rest on two facts about
`segmentsFrom`: a list of segments comes from lexemes that can be cut wherever the segments can
(`segmentsFrom_append`), and offsets enter nothing but the segments (`segmentsFrom_moved`).
-/

namespace Stencil.Template

open Text

/-! ## Segments of lexemes -/

/-- The text that a lexeme outside the blocks stands for. -/
def Lexeme.literal? (rules : BlockRules) : Lexeme → Option Text
  | .char c => some [c]
  | .escapedOpen => some rules.opening
  | .escapedClose => some rules.closing
  | .block _ => none

/-- A lexeme that stands for no text is a block. -/
theorem Lexeme.eq_block_of_literal?_eq_none {rules : BlockRules} {l : Lexeme}
    (h : l.literal? rules = none) : ∃ body, l = .block body := by
  cases l with
  | block body => exact ⟨body, rfl⟩
  | _ => simp [literal?] at h

theorem segmentsFrom_literal {rules : BlockRules} {l : Lexeme} {t : Text}
    (h : l.literal? rules = some t) (pos : Nat) (ls : List Lexeme) :
    segmentsFrom rules pos (l :: ls) =
      (segmentsFrom rules (pos + (l.source rules).length) ls).map
        (pushLiteral t (l.source rules)) := by
  cases l with
  | block body => simp [Lexeme.literal?] at h
  | _ =>
    obtain rfl := Option.some.inj h
    rfl

theorem segmentsFrom_block {rules : BlockRules} {body : Text} (h : allBlank body = false)
    (pos : Nat) (ls : List Lexeme) :
    segmentsFrom rules pos (.block body :: ls) =
      (segmentsFrom rules (pos + ((Lexeme.block body).source rules).length) ls).map
        (.expression body pos (pos + ((Lexeme.block body).source rules).length) :: ·) := by
  rw [segmentsFrom]
  simp only [h, Bool.false_eq_true, if_false]

theorem pushLiteral_pushLiteral (s t r q : Text) (segs : List Segment) :
    pushLiteral s r (pushLiteral t q segs) = pushLiteral (s ++ t) (r ++ q) segs := by
  cases segs with
  | nil => rfl
  | cons seg segs =>
    cases seg with
    | literal => simp [pushLiteral]
    | expression => rfl

/-- The segments of lexemes are an added piece of literal text or an added expression in front of
the segments of all lexemes but the first. -/
theorem segmentsFrom_cons_eq_ok {rules : BlockRules} {pos : Nat} {l : Lexeme} {ls : List Lexeme}
    {segs : List Segment} (h : segmentsFrom rules pos (l :: ls) = .ok segs) :
    ∃ more, segmentsFrom rules (pos + (l.source rules).length) ls = .ok more ∧
      ((∃ t, l.literal? rules = some t ∧ segs = pushLiteral t (l.source rules) more) ∨
        ∃ body, l = .block body ∧ allBlank body = false ∧
          segs = .expression body pos (pos + (l.source rules).length) :: more) := by
  cases hl : l.literal? rules with
  | some t =>
    rw [segmentsFrom_literal hl] at h
    obtain ⟨more, hmore, rfl⟩ := map_eq_ok_iff.1 h
    exact ⟨more, hmore, .inl ⟨t, rfl, rfl⟩⟩
  | none =>
    obtain ⟨body, rfl⟩ := Lexeme.eq_block_of_literal?_eq_none hl
    cases hb : allBlank body with
    | true => simp [segmentsFrom, hb] at h
    | false =>
      rw [segmentsFrom_block hb] at h
      obtain ⟨more, hmore, rfl⟩ := map_eq_ok_iff.1 h
      exact ⟨more, hmore, .inr ⟨body, rfl, hb, rfl⟩⟩

/-! ## Writing back -/

theorem unparse_cons (opening closing : Text) (seg : Segment) (segs : List Segment) :
    unparse opening closing (seg :: segs) =
      unparse opening closing [seg] ++ unparse opening closing segs := by
  simp [unparse]

theorem unparse_pushLiteral (opening closing text raw : Text) (segs : List Segment) :
    unparse opening closing (pushLiteral text raw segs) = raw ++ unparse opening closing segs := by
  cases segs with
  | nil => rfl
  | cons seg segs =>
    cases seg with
    | literal t r => simp [pushLiteral, unparse]
    | expression t start stop => rfl

/-- Segments are written back as the source of the lexemes they come from. -/
theorem unparse_segmentsFrom {rules : BlockRules} {pos : Nat} {ls : List Lexeme}
    {segs : List Segment} (h : segmentsFrom rules pos ls = .ok segs) :
    unparse rules.opening rules.closing segs = sourceOf rules ls := by
  induction ls generalizing pos segs with
  | nil =>
    obtain rfl : [] = segs := by simpa [segmentsFrom] using h
    rfl
  | cons l ls ih =>
    obtain ⟨more, hmore, ⟨t, -, rfl⟩ | ⟨body, rfl, -, rfl⟩⟩ := segmentsFrom_cons_eq_ok h
    · rw [unparse_pushLiteral, ih hmore, sourceOf_cons]
    · rw [unparse_cons, ih hmore, sourceOf_cons]
      simp [unparse, Lexeme.source]

/-- The segments of a text are those of the lexemes that it is made of. -/
theorem parse_of_lexes {rules : BlockRules} {text : Text} {ls : List Lexeme}
    (h : Lexes rules text ls) : parse rules text = segmentsFrom rules 0 ls := by
  rw [parse, lexemes, lexemesFrom_eq_ok_iff.2 h]
  rfl

/-- A block that is closed at the end of the template is all that there is in it. -/
theorem parse_block {rules : BlockRules} {body : Text}
    (hopen : ¬ rules.opening <+: body ++ rules.closing) (hblank : allBlank body = false)
    (h : Closes rules 0 (body ++ rules.closing) body []) :
    parse rules (rules.opening ++ (body ++ rules.closing)) =
      .ok [.expression body 0 (rules.opening ++ body ++ rules.closing).length] := by
  rw [parse_of_lexes (.cons (.block hopen h) .nil), segmentsFrom_block hblank, Nat.zero_add]
  rfl

theorem parse_eq_ok_iff {rules : BlockRules} {text : Text} {segs : List Segment} :
    parse rules text = .ok segs ↔
      ∃ ls, Lexes rules text ls ∧ segmentsFrom rules 0 ls = .ok segs := by
  constructor
  · intro h
    cases hl : lexemesFrom rules 0 text with
    | error e =>
      rw [parse, lexemes, hl] at h
      exact absurd h (by simp [bind, Except.bind])
    | ok ls =>
      have hlexes := lexemesFrom_eq_ok_iff.1 hl
      exact ⟨ls, hlexes, parse_of_lexes hlexes ▸ h⟩
  · rintro ⟨ls, hlexes, h⟩
    rw [parse_of_lexes hlexes, h]

/-- A block of a template is in its text together with its delimiters. -/
theorem sublist_of_mem_parse {rules : BlockRules} {text inner : Text} {segs : List Segment}
    {start stop : Nat} (h : parse rules text = .ok segs)
    (hmem : .expression inner start stop ∈ segs) :
    (rules.opening ++ inner ++ rules.closing).Sublist text := by
  obtain ⟨ls, hlexes, hsegs⟩ := parse_eq_ok_iff.1 h
  have hsource : unparse rules.opening rules.closing segs = text :=
    (unparse_segmentsFrom hsegs).trans hlexes.append.symm
  rw [← hsource, unparse, List.flatMap_def]
  exact List.sublist_flatten_of_mem (List.mem_map.2 ⟨_, hmem, rfl⟩)

/-- Parsing loses nothing: the segments of a template, written back with its own delimiters, are the
template. -/
theorem unparse_parse {rules : BlockRules} {text : Text} {segs : List Segment}
    (h : parse rules text = .ok segs) : unparse rules.opening rules.closing segs = text := by
  obtain ⟨ls, hlexes, hsegs⟩ := parse_eq_ok_iff.1 h
  rw [unparse_segmentsFrom hsegs, ← hlexes.append]

/-- Doubled delimiters on both sides of a block that holds a close delimiter in quotes. -/
theorem unparse_parse_quoted_close :
    let rules : BlockRules := ⟨['<'], ['>'], false, ['#'], by simp, by simp⟩
    let segs : List Segment :=
      [.literal "a< ".toList "a<< ".toList, .expression "x['>']".toList 4 12,
        .literal ">b".toList ">>b".toList]
    parse rules "a<< <x['>']>>>b".toList = .ok segs ∧
      unparse rules.opening rules.closing segs = "a<< <x['>']>>>b".toList := by
  intro rules segs
  have h : parse rules "a<< <x['>']>>>b".toList = .ok segs := by decide +kernel
  exact ⟨h, unparse_parse h⟩

/-! ## Cutting between segments -/

theorem pushLiteral_eq_append {text raw : Text} {segs before after : List Segment}
    (hne : before ≠ []) (h : pushLiteral text raw segs = before ++ after) :
    ∃ first, segs = first ++ after ∧ pushLiteral text raw first = before := by
  obtain ⟨seg, before, rfl⟩ := List.exists_cons_of_ne_nil hne
  cases segs with
  | nil =>
    obtain ⟨rfl, hnil⟩ : Segment.literal text raw = seg ∧ [] = before ++ after := by
      simpa [pushLiteral] using h
    obtain ⟨rfl, rfl⟩ := List.append_eq_nil_iff.1 hnil.symm
    exact ⟨[], rfl, rfl⟩
  | cons next segs =>
    cases next with
    | literal t r =>
      obtain ⟨rfl, rfl⟩ :
          Segment.literal (text ++ t) (raw ++ r) = seg ∧ segs = before ++ after := by
        simpa [pushLiteral] using h
      exact ⟨.literal t r :: before, rfl, rfl⟩
    | expression t start stop =>
      obtain ⟨rfl, htail⟩ : Segment.literal text raw = seg ∧
          Segment.expression t start stop :: segs = before ++ after := by
        simpa [pushLiteral] using h
      refine ⟨before, htail, ?_⟩
      cases before with
      | nil => rfl
      | cons b before =>
        rw [List.cons_append, List.cons.injEq] at htail
        rw [← htail.1]
        rfl

/-- Where a list of segments can be cut, so can the lexemes they come from. -/
theorem segmentsFrom_append {rules : BlockRules} {pos : Nat} {ls : List Lexeme}
    {before after : List Segment} (h : segmentsFrom rules pos ls = .ok (before ++ after)) :
    ∃ first last, ls = first ++ last ∧ segmentsFrom rules pos first = .ok before ∧
      segmentsFrom rules (pos + (sourceOf rules first).length) last = .ok after := by
  induction ls generalizing pos before with
  | nil =>
    have hnil : [] = before ++ after := by simpa [segmentsFrom] using h
    obtain ⟨rfl, rfl⟩ := List.append_eq_nil_iff.1 hnil.symm
    exact ⟨[], [], rfl, rfl, rfl⟩
  | cons l ls ih =>
    by_cases hne : before = []
    · -- nothing in front of the cut takes no lexemes, whatever `l` is
      subst hne
      exact ⟨[], l :: ls, rfl, rfl, h⟩
    obtain ⟨more, hmore, ⟨t, hl, hsegs⟩ | ⟨body, rfl, hb, hsegs⟩⟩ := segmentsFrom_cons_eq_ok h
    · -- literal text that the lexeme adds to belongs to the same segment as the lexeme
      obtain ⟨inner, rfl, rfl⟩ := pushLiteral_eq_append hne hsegs.symm
      obtain ⟨first, last, rfl, hfirst, hlast⟩ := ih hmore
      refine ⟨l :: first, last, rfl, ?_, ?_⟩
      · rw [segmentsFrom_literal hl, hfirst]
        rfl
      · rw [sourceOf_cons, List.length_append, ← Nat.add_assoc]
        exact hlast
    · obtain ⟨seg, before, rfl⟩ := List.exists_cons_of_ne_nil hne
      rw [List.cons_append, List.cons.injEq] at hsegs
      obtain ⟨rfl, rfl⟩ := hsegs
      obtain ⟨first, last, rfl, hfirst, hlast⟩ := ih hmore
      refine ⟨.block body :: first, last, rfl, ?_, ?_⟩
      · rw [segmentsFrom_block hb, hfirst]
        rfl
      · rw [sourceOf_cons, List.length_append, ← Nat.add_assoc]
        exact hlast

/-! ## Moving -/

/-- A segment of a template that stands `k` characters further on. -/
def Segment.moved (k : Nat) : Segment → Segment
  | .literal text raw => .literal text raw
  | .expression text start stop => .expression text (k + start) (k + stop)

theorem map_moved_pushLiteral (k : Nat) (text raw : Text) (segs : List Segment) :
    (pushLiteral text raw segs).map (Segment.moved k) =
      pushLiteral text raw (segs.map (Segment.moved k)) := by
  cases segs with
  | nil => rfl
  | cons seg segs => cases seg <;> rfl

/-- Lexemes that start further on give the same segments, moved. -/
theorem segmentsFrom_moved {rules : BlockRules} {pos : Nat} (k : Nat) {ls : List Lexeme}
    {segs : List Segment} (h : segmentsFrom rules (k + pos) ls = .ok segs) :
    ∃ own, segmentsFrom rules pos ls = .ok own ∧ segs = own.map (Segment.moved k) := by
  induction ls generalizing pos segs with
  | nil =>
    obtain rfl : [] = segs := by simpa [segmentsFrom] using h
    exact ⟨[], rfl, rfl⟩
  | cons l ls ih =>
    obtain ⟨more, hmore, hsegs⟩ := segmentsFrom_cons_eq_ok h
    rw [Nat.add_assoc] at hmore
    obtain ⟨own, hown, rfl⟩ := ih hmore
    obtain ⟨t, hl, rfl⟩ | ⟨body, rfl, hb, rfl⟩ := hsegs
    · refine ⟨pushLiteral t (l.source rules) own, ?_, (map_moved_pushLiteral ..).symm⟩
      rw [segmentsFrom_literal hl, hown]
      rfl
    · refine ⟨_, by rw [segmentsFrom_block hb, hown]; rfl, ?_⟩
      rw [List.map_cons, Segment.moved, Nat.add_assoc]

/-- Every run of neighbouring segments of a template is what its own source parses to, moved by the
length of the source in front of it. -/
theorem parse_unparse_run {rules : BlockRules} {text : Text} {before run after : List Segment}
    (h : parse rules text = .ok (before ++ run ++ after)) :
    ∃ own, parse rules (unparse rules.opening rules.closing run) = .ok own ∧
      run = own.map (Segment.moved (unparse rules.opening rules.closing before).length) := by
  obtain ⟨ls, hlexes, hsegs⟩ := parse_eq_ok_iff.1 h
  -- the lexemes are cut in front of the run and after it
  rw [List.append_assoc] at hsegs
  obtain ⟨first, ls, rfl, hfirst, hsegs⟩ := segmentsFrom_append hsegs
  obtain ⟨middle, last, rfl, hmiddle, -⟩ := segmentsFrom_append hsegs
  rw [Nat.add_comm] at hmiddle
  obtain ⟨own, hown, hrun⟩ := segmentsFrom_moved _ hmiddle
  refine ⟨own, parse_eq_ok_iff.2 ⟨middle, ?_, hown⟩, ?_⟩
  · rw [unparse_segmentsFrom hmiddle]
    exact hlexes.source_middle
  · rw [unparse_segmentsFrom hfirst]
    exact hrun

/-- The middle of a template with nested blocks whose open delimiter starts with the close
delimiter. -/
theorem parse_unparse_run_overlapping :
    let rules : BlockRules := ⟨['<', '<'], ['<'], false, ['#'], by simp, by simp⟩
    let before : List Segment := [.literal "a".toList "a".toList]
    let run : List Segment := [.expression "x<<<y".toList 1 9, .literal "b".toList "b".toList]
    let after : List Segment := [.expression "z".toList 10 14]
    parse rules "a<<x<<<y<b<<z<".toList = .ok (before ++ run ++ after) ∧
      ∃ own, parse rules (unparse rules.opening rules.closing run) = .ok own ∧
        run = own.map (Segment.moved (unparse rules.opening rules.closing before).length) := by
  intro rules before run after
  have h : parse rules "a<<x<<<y<b<<z<".toList = .ok (before ++ run ++ after) := by
    decide +kernel
  exact ⟨h, parse_unparse_run h⟩

end Stencil.Template
