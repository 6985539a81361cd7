import Stencil.Proofs.Template.Source

/-!
# Joined templates

When the delimiters are single characters, two templates can be joined anywhere but in front of a
close delimiter, with which a doubled one could arise. Main statement: `parse_append`, the joined
template parses to the segments of both, where a literal at the end of the first and one at the
start of the second become one literal (`joinSegments`).
-/

namespace Stencil.Template

open Text

/-! ## Lexemes -/

/-- The only delimiter that can arise where two texts are joined is a doubled close delimiter. -/
theorem noNewStart_doubled {c : Char} {s t : Text} (h : ¬ [c] <+: t) :
    NoNewStart [c, c] s (s ++ t) := by
  intro u hu hp
  rw [← List.append_assoc] at hp
  by_cases hlen : 2 ≤ (u ++ s).length
  · simpa using (isPrefix_append_congr (p := [c, c]) hlen t []).1 hp
  · -- a single character stands before the seam, and the second delimiter would start after it
    obtain ⟨x, rfl⟩ : ∃ x, u = [x] := by
      rw [List.length_append] at hlen
      have hone : u.length = 1 := by
        have := List.length_pos_iff.2 hu
        omega
      exact List.length_eq_one_iff.1 hone
    obtain rfl : s = [] := by
      rw [List.length_append, List.length_singleton] at hlen
      exact List.length_eq_zero_iff.1 (by omega)
    rw [List.append_nil, List.singleton_append, List.cons_prefix_cons] at hp
    exact absurd hp.2 h

/-- Joined texts are made of the lexemes of both. -/
theorem Lexes.join {rules : BlockRules} {o c : Char} (ho : rules.opening = [o])
    (hc : rules.closing = [c]) {s t : Text} {ls ms : List Lexeme} (hs : Lexes rules s ls)
    (ht : Lexes rules t ms) (hseam : ¬ rules.closing <+: t) :
    Lexes rules (s ++ t) (ls ++ ms) := by
  induction hs with
  | nil => exact ht
  | @cons s rest l ls hstart _ ih =>
    rw [hstart.append, List.append_assoc]
    refine .cons (hstart.swap ?_ ?_ ?_) ih
    · exact ho ▸ noNewStart_singleton o rest _
    · exact hc ▸ noNewStart_singleton c rest _
    · rw [hc] at hseam ⊢
      exact noNewStart_doubled hseam

/-! ## Segments -/

/-- The segments of joined templates: literals that come to stand next to each other are one. -/
def joinSegments : List Segment → List Segment → List Segment
  | [], segs => segs
  | .literal text raw :: first, segs => pushLiteral text raw (joinSegments first segs)
  | .expression text start stop :: first, segs =>
    .expression text start stop :: joinSegments first segs

theorem joinSegments_pushLiteral (text raw : Text) (first segs : List Segment) :
    joinSegments (pushLiteral text raw first) segs =
      pushLiteral text raw (joinSegments first segs) := by
  cases first with
  | nil => rfl
  | cons seg first =>
    cases seg with
    | literal t r => exact (pushLiteral_pushLiteral ..).symm
    | expression t start stop => rfl

/-- The segments of lexemes with more behind them. -/
theorem segmentsFrom_join {rules : BlockRules} {pos : Nat} {ls ms : List Lexeme}
    {first segs : List Segment} (hls : segmentsFrom rules pos ls = .ok first)
    (hms : segmentsFrom rules (pos + (sourceOf rules ls).length) ms = .ok segs) :
    segmentsFrom rules pos (ls ++ ms) = .ok (joinSegments first segs) := by
  induction ls generalizing pos first with
  | nil =>
    obtain rfl : [] = first := by simpa [segmentsFrom] using hls
    exact hms
  | cons l ls ih =>
    obtain ⟨more, hmore, hfirst⟩ := segmentsFrom_cons_eq_ok hls
    rw [sourceOf_cons, List.length_append, ← Nat.add_assoc] at hms
    have hrest := ih hmore hms
    obtain ⟨t, hl, rfl⟩ | ⟨body, rfl, hb, rfl⟩ := hfirst
    · rw [List.cons_append, segmentsFrom_literal hl, hrest, joinSegments_pushLiteral]
      rfl
    · rw [List.cons_append, segmentsFrom_block hb, hrest]
      rfl

/-- Lexemes have the same segments, moved, where they start further on. -/
theorem segmentsFrom_of_moved {rules : BlockRules} {pos : Nat} (k : Nat) {ls : List Lexeme}
    {own : List Segment} (h : segmentsFrom rules pos ls = .ok own) :
    segmentsFrom rules (k + pos) ls = .ok (own.map (Segment.moved k)) := by
  induction ls generalizing pos own with
  | nil =>
    obtain rfl : [] = own := by simpa [segmentsFrom] using h
    rfl
  | cons l ls ih =>
    obtain ⟨more, hmore, hown⟩ := segmentsFrom_cons_eq_ok h
    have hrest := ih hmore
    rw [← Nat.add_assoc] at hrest
    obtain ⟨t, hl, rfl⟩ | ⟨body, rfl, hb, rfl⟩ := hown
    · rw [segmentsFrom_literal hl, hrest, map_moved_pushLiteral]
      rfl
    · rw [segmentsFrom_block hb, hrest, List.map_cons, Segment.moved, ← Nat.add_assoc]
      rfl

/-- A template that is joined from two parses to the segments of both, those of the second moved
behind the first. -/
theorem parse_append {rules : BlockRules} {o c : Char} (ho : rules.opening = [o])
    (hc : rules.closing = [c]) {s t : Text} {first second : List Segment}
    (hs : parse rules s = .ok first) (ht : parse rules t = .ok second)
    (hseam : ¬ rules.closing <+: t) :
    parse rules (s ++ t) =
      .ok (joinSegments first (second.map (Segment.moved s.length))) := by
  obtain ⟨ls, hls, hfirst⟩ := parse_eq_ok_iff.1 hs
  obtain ⟨ms, hms, hsecond⟩ := parse_eq_ok_iff.1 ht
  rw [parse_of_lexes (hls.join ho hc hms hseam)]
  refine segmentsFrom_join hfirst ?_
  have hmoved := segmentsFrom_of_moved s.length hsecond
  rwa [← hls.append, Nat.zero_add]

end Stencil.Template
