import Mathlib.Data.List.Forall2
import Stencil.Proofs.Template.Continuation

/-!
# Trimmed templates

What trimming takes away from the lines of a template. Main statements: `trim_indented`, a template
that is indented farther is trimmed to the same text; `lines_trim`, without backslashes the lines of
a trimmed template are those that were there, less a blank one at either end and less as much
indentation as they share (`Dedented`).
-/

namespace Stencil.Template

open Text

/-! ## Indentation -/

/-- Spaces and tabs alone. -/
def IsIndentation (p : Text) : Prop := ∀ c ∈ p, isIndent c = true

instance (p : Text) : Decidable (IsIndentation p) := List.decidableBAll _ p

theorem isBlank_of_isIndent {c : Char} (h : isIndent c = true) : isBlank c = true := by
  simp only [isIndent, Bool.or_eq_true, beq_iff_eq] at h
  obtain rfl | rfl := h <;> decide

theorem takeWhile_isIndentation (l : Text) : IsIndentation (l.takeWhile isIndent) :=
  fun c hc => List.all_eq_true.1 List.all_takeWhile c hc

section

variable {p : Text} (hp : IsIndentation p)
include hp

theorem IsIndentation.newline_not_mem : '\n' ∉ p := fun h => absurd (hp '\n' h) (by decide)

/-- Indentation does not make a line blank. -/
theorem IsIndentation.allBlank_append (l : Text) : allBlank (p ++ l) = allBlank l := by
  have hblank : p.all isBlank = true := List.all_eq_true.2 fun c hc => isBlank_of_isIndent (hp c hc)
  rw [allBlank, List.all_append, hblank, Bool.true_and]
  rfl

theorem IsIndentation.indentWidth_append (l : Text) :
    indentWidth (p ++ l) = p.length + indentWidth l := by
  rw [indentWidth, List.takeWhile_append_of_pos hp, List.length_append]
  rfl

end

theorem drop_indentWidth (l : Text) : l.drop (indentWidth l) = l.dropWhile isIndent := by
  have h : (l.takeWhile isIndent ++ l.dropWhile isIndent).drop (indentWidth l) =
      l.dropWhile isIndent := List.drop_left' rfl
  rwa [List.takeWhile_append_dropWhile] at h

/-- What is left of a line without its indentation does not start with any. -/
theorem indentWidth_dropWhile (l : Text) : indentWidth (l.dropWhile isIndent) = 0 := by
  have h := (takeWhile_isIndentation l).indentWidth_append (l.dropWhile isIndent)
  rw [List.takeWhile_append_dropWhile] at h
  have hwidth : indentWidth l = (l.takeWhile isIndent).length := rfl
  omega

/-- What a line starts with, up to its indentation. -/
theorem take_isIndentation {l : Text} {width : Nat} (h : width ≤ indentWidth l) :
    IsIndentation (l.take width) := by
  intro c hc
  have hl : l.take width = (l.takeWhile isIndent).take width := by
    conv_lhs => rw [← List.takeWhile_append_dropWhile (p := isIndent) (l := l)]
    exact List.take_append_of_le_length h
  rw [hl] at hc
  exact takeWhile_isIndentation l c (List.mem_of_mem_take hc)

/-! ## Common indentation -/

theorem commonIndent_eq_none_iff {ls : List Text} :
    commonIndent ls = none ↔ ∀ l ∈ ls, allBlank l = true := by
  simp [commonIndent, List.min?_eq_none_iff]

/-- The common indentation is that of a line that is not blank, and no such line has less. -/
theorem commonIndent_eq_some_iff {ls : List Text} {width : Nat} :
    commonIndent ls = some width ↔
      (∃ l ∈ ls, allBlank l = false ∧ indentWidth l = width) ∧
        ∀ l ∈ ls, allBlank l = false → width ≤ indentWidth l := by
  have hmem (n : Nat) : n ∈ (ls.filter fun l => !allBlank l).map indentWidth ↔
      ∃ l ∈ ls, allBlank l = false ∧ indentWidth l = n := by
    simp [and_assoc]
  rw [commonIndent, List.min?_eq_some_iff, hmem]
  refine and_congr_right fun _ => ⟨fun h l hl hblank => ?_, fun h n hn => ?_⟩
  · exact h _ ((hmem _).2 ⟨l, hl, hblank, rfl⟩)
  · obtain ⟨l, hl, hblank, rfl⟩ := (hmem n).1 hn
    exact h l hl hblank

/-- If all lines are blank, the whole of their indentation goes. -/
theorem dedent_of_none {ls : List Text} (h : commonIndent ls = none) :
    dedent ls = ls.map fun l => l.drop (indentWidth l) := by
  simp only [dedent, h, drop_indentWidth]

theorem dedent_of_some {ls : List Text} {width : Nat} (h : commonIndent ls = some width) :
    dedent ls = ls.map fun l => l.drop (min width (indentWidth l)) := by
  simp only [dedent, h]

/-- A line loses as much as it has, or as all have that are not blank. -/
theorem exists_dedent_eq (ls : List Text) :
    ∃ width : Text → Nat, (∀ l, width l ≤ indentWidth l) ∧
      dedent ls = ls.map fun l => l.drop (width l) := by
  cases h : commonIndent ls with
  | none => exact ⟨indentWidth, fun l => Nat.le_refl _, dedent_of_none h⟩
  | some width =>
    exact ⟨fun l => min width (indentWidth l), fun l => Nat.min_le_right .., dedent_of_some h⟩

/-! ## Templates that are indented farther -/

section

variable {p : Text} (hp : IsIndentation p)
include hp

/-- Lines that are indented farther have as much more in common. -/
theorem IsIndentation.commonIndent_map (ls : List Text) :
    commonIndent (ls.map (p ++ ·)) = (commonIndent ls).map (p.length + ·) := by
  cases h : commonIndent ls with
  | none =>
    rw [commonIndent_eq_none_iff] at h
    rw [Option.map_none, commonIndent_eq_none_iff, List.forall_mem_map]
    exact fun l hl => (hp.allBlank_append l).trans (h l hl)
  | some width =>
    obtain ⟨⟨l, hl, hblank, rfl⟩, hleast⟩ := commonIndent_eq_some_iff.1 h
    rw [Option.map_some, commonIndent_eq_some_iff, List.forall_mem_map]
    refine ⟨⟨p ++ l, List.mem_map_of_mem hl, ?_, hp.indentWidth_append l⟩, fun m hm hm' => ?_⟩
    · rw [hp.allBlank_append, hblank]
    · rw [hp.allBlank_append] at hm'
      rw [hp.indentWidth_append]
      have := hleast m hm hm'
      omega

theorem IsIndentation.dedent_map (ls : List Text) : dedent (ls.map (p ++ ·)) = dedent ls := by
  have hcommon := hp.commonIndent_map ls
  cases h : commonIndent ls with
  | none =>
    rw [h] at hcommon
    rw [dedent_of_none h, dedent_of_none hcommon, List.map_map]
    refine List.map_congr_left fun l _ => ?_
    rw [Function.comp_apply, hp.indentWidth_append, List.drop_append]
    simp
  | some width =>
    rw [h] at hcommon
    rw [dedent_of_some h, dedent_of_some hcommon, List.map_map]
    refine List.map_congr_left fun l _ => ?_
    rw [Function.comp_apply, hp.indentWidth_append, Nat.add_min_add_left, List.drop_append]
    simp

theorem IsIndentation.dropBlankLast_map (ls : List Text) :
    dropBlankLast (ls.map (p ++ ·)) = (dropBlankLast ls).map (p ++ ·) := by
  cases h : ls.getLast? with
  | none => simp [dropBlankLast, List.getLast?_map, h]
  | some last =>
    simp only [dropBlankLast, List.getLast?_map, h, Option.map_some, hp.allBlank_append]
    split
    · exact List.map_dropLast.symm
    · rfl

end

/-- The lines of a template are trimmed before what is continued in them is joined. -/
theorem trim_of_newline {t : Text} (h : '\n' ∈ t) :
    trim t = joinContinued none (joinWith ['\n'] (trimmedLines (lines t))) := by
  obtain ⟨l, m, rest, hlines⟩ := exists_lines_eq h
  rw [trim, hlines]

theorem trim_of_not_mem {t : Text} (h : '\n' ∉ t) : trim t = t := by
  have hlines : lines (joinWith ['\n'] [t]) = [t] := lines_joinWith (by simp) (by simpa using h)
  rw [joinWith] at hlines
  rw [trim, hlines]

/-- A template is trimmed to the same text if all of its lines but the first are indented by the
same spaces and tabs in front of what they had. -/
theorem trim_indented {p : Text} (hp : IsIndentation p) (t : Text) :
    trim (replaceChar '\n' ('\n' :: p) t) = trim t := by
  by_cases h : '\n' ∈ t
  · have hnew : '\n' ∈ replaceChar '\n' ('\n' :: p) t :=
      List.mem_flatMap.2 ⟨'\n', h, by simp⟩
    obtain ⟨l, m, rest, hlines⟩ := exists_lines_eq h
    have htrimmed : trimmedLines (l :: (m :: rest).map (p ++ ·)) =
        trimmedLines (l :: m :: rest) := by
      simp only [trimmedLines, hp.dropBlankLast_map, hp.dedent_map]
    rw [trim_of_newline hnew, trim_of_newline h, lines_replaceChar hp.newline_not_mem hlines,
      htrimmed, hlines]
  · rw [replaceChar_eq_self _ h]

/-- A template with a continued line and a blank line of other white space is indented by a space
and a tab. -/
theorem trim_indented_continued :
    let p : Text := [' ', '\t']
    let t : Text := "a\n  b\\\n\x0c\n    c\n".toList
    IsIndentation p ∧ trim (replaceChar '\n' ('\n' :: p) t) = trim t := by
  intro p t
  have hp : IsIndentation p := by decide
  exact ⟨hp, trim_indented hp t⟩

/-! ## What is taken away -/

/-- Lines without indentation that they share: each loses some of the spaces and tabs at its start,
those that are not blank lose equally many, and if there are such lines, one of them is left without
spaces and tabs at its start. -/
structure Dedented (before after : List Text) : Prop where
  loses : List.Forall₂ (fun l m => ∃ p, IsIndentation p ∧ l = p ++ m) before after
  alike : ∃ width, List.Forall₂ (fun l m => allBlank l = false → l.length = width + m.length)
    before after
  least : (∃ l ∈ before, allBlank l = false) →
    ∃ e ∈ before.zip after, allBlank e.1 = false ∧ indentWidth e.2 = 0

/-- Dedenting takes away indentation, as much of it as all lines have that are not blank. -/
theorem dedented_dedent (ls : List Text) : Dedented ls (dedent ls) where
  loses := by
    obtain ⟨width, hwidth, hdedent⟩ := exists_dedent_eq ls
    rw [hdedent, List.forall₂_map_right_iff, List.forall₂_same]
    exact fun l _ => ⟨_, take_isIndentation (hwidth l), (List.take_append_drop (width l) l).symm⟩
  alike := by
    cases h : commonIndent ls with
    | none =>
      have hblank := commonIndent_eq_none_iff.1 h
      refine ⟨0, ?_⟩
      rw [dedent_of_none h, List.forall₂_map_right_iff, List.forall₂_same]
      intro l hl hnot
      exact absurd (hblank l hl) (by simp [hnot])
    | some width =>
      have hleast := (commonIndent_eq_some_iff.1 h).2
      refine ⟨width, ?_⟩
      rw [dedent_of_some h, List.forall₂_map_right_iff, List.forall₂_same]
      intro l hl hnot
      have hwidth := hleast l hl hnot
      have hlength : indentWidth l ≤ l.length := (List.takeWhile_sublist _).length_le
      rw [List.length_drop]
      omega
  least := by
    rintro ⟨l, hl, hnot⟩
    cases h : commonIndent ls with
    | none => exact absurd (commonIndent_eq_none_iff.1 h l hl) (by simp [hnot])
    | some width =>
      -- a line with the least indentation has none left
      obtain ⟨⟨least, hmem, hleast, rfl⟩, -⟩ := commonIndent_eq_some_iff.1 h
      rw [dedent_of_some h]
      have hzip : ls.zip (ls.map fun l => l.drop (min (indentWidth least) (indentWidth l))) =
          ls.map fun l => (l, l.drop (min (indentWidth least) (indentWidth l))) := by
        simpa using List.zip_map' (f := id) (l := ls)
      refine ⟨_, hzip ▸ List.mem_map_of_mem hmem, hleast, ?_⟩
      rw [Nat.min_self, drop_indentWidth, indentWidth_dropWhile]

/-- A blank line is dropped at the end, and no other line. -/
theorem exists_dropBlankLast (ls : List Text) :
    ∃ last, ls = dropBlankLast ls ++ last ∧ last.length ≤ 1 ∧ (∀ l ∈ last, allBlank l = true) ∧
      (last = [] → ∀ l ∈ ls.getLast?, allBlank l = false) := by
  cases h : ls.getLast? with
  | none => exact ⟨[], by simp [dropBlankLast, h]⟩
  | some last =>
    by_cases hblank : allBlank last = true
    · refine ⟨[last], ?_, by simp, by simpa using hblank, by simp⟩
      simp only [dropBlankLast, h, if_pos hblank]
      exact (List.dropLast_append_getLast? last h).symm
    · refine ⟨[], ?_, by simp, by simp, ?_⟩
      · simp [dropBlankLast, h, hblank]
      · simpa using hblank

/-- What is left of lines are ends of lines. -/
theorem suffix_of_mem_trimmedLines {ls : List Text} {m : Text} (h : m ∈ trimmedLines ls) :
    ∃ l ∈ ls, m <:+ l := by
  have hdedent {ls : List Text} (hm : m ∈ dedent ls) : ∃ l ∈ ls, m <:+ l := by
    obtain ⟨width, -, hdedent⟩ := exists_dedent_eq ls
    rw [hdedent] at hm
    obtain ⟨l, hl, rfl⟩ := List.mem_map.1 hm
    exact ⟨l, hl, List.drop_suffix ..⟩
  cases ls with
  | nil => exact absurd h (by simp [trimmedLines])
  | cons first rest =>
    have hbody (hm : m ∈ dedent (dropBlankLast rest)) : ∃ l ∈ first :: rest, m <:+ l := by
      obtain ⟨last, hrest, -⟩ := exists_dropBlankLast rest
      obtain ⟨l, hl, hsuffix⟩ := hdedent hm
      have hmem : l ∈ dropBlankLast rest ++ last := List.mem_append_left last hl
      exact ⟨l, List.mem_cons_of_mem first (hrest ▸ hmem), hsuffix⟩
    rw [trimmedLines] at h
    split at h
    · exact hbody h
    · obtain rfl | h := List.mem_cons.1 h
      · exact ⟨m, List.mem_cons_self .., List.suffix_rfl⟩
      · exact hbody h

/-- Joining continued lines leaves characters out. -/
theorem joinContinued_sublist (before : Option Char) (s : Text) :
    (joinContinued before s).Sublist s := by
  fun_induction joinContinued before s with
  | case1 => exact .slnil
  | case2 c s ih => exact ih.cons_cons c
  | case3 before c s hbefore m hm ih =>
    rw [eq_of_continuation? hm]
    exact (List.Sublist.refl m.1).append ((ih.cons '\n').cons '\\')
  | case4 before c s hbefore hm ih => exact ih.cons_cons c

/-- What is left of the lines are some of them in order, each without characters that it had. -/
theorem trimmedLines_sublist (ls : List Text) :
    List.SublistForall₂ List.Sublist (trimmedLines ls) ls := by
  cases ls with
  | nil => exact .nil
  | cons first rest =>
    obtain ⟨last, hrest, -⟩ := exists_dropBlankLast rest
    obtain ⟨width, -, hdedent⟩ := exists_dedent_eq (dropBlankLast rest)
    have hkept : (dropBlankLast rest).Sublist rest := by
      have hleft := List.sublist_append_left (dropBlankLast rest) last
      rwa [← hrest] at hleft
    have hloses : List.Forall₂ List.Sublist (dedent (dropBlankLast rest)) (dropBlankLast rest) := by
      rw [hdedent, List.forall₂_map_left_iff, List.forall₂_same]
      exact fun l _ => List.drop_sublist ..
    have hbody := List.sublistForall₂_iff.2 ⟨_, hloses, hkept⟩
    rw [trimmedLines]
    split
    · exact hbody.cons_right
    · exact .cons (.refl first) hbody

/-- Trimming leaves characters out, and neither adds nor moves any. -/
theorem trim_sublist (t : Text) : (trim t).Sublist t := by
  by_cases h : '\n' ∈ t
  · have hlines := joinWith_sublist ['\n'] (trimmedLines_sublist (lines t))
    rw [joinWith_lines] at hlines
    rw [trim_of_newline h]
    exact (joinContinued_sublist none _).trans hlines
  · rw [trim_of_not_mem h]

theorem mem_of_mem_trim {t : Text} {c : Char} (h : c ∈ trim t) : c ∈ t := (trim_sublist t).subset h

/-- If neither the first nor the last line is blank, and without backslashes, the lines of a trimmed
template are the first one as it was, and the others dedented. -/
theorem lines_trim_of_not_blank {t first : Text} {rest : List Text}
    (hlines : lines t = first :: rest)
    (hslash : '\\' ∉ t) (hfirst : allBlank first = false)
    (hlast : ∀ l ∈ rest.getLast?, allBlank l = false) : lines (trim t) = first :: dedent rest := by
  cases rest with
  | nil =>
    rw [trim, hlines]
    exact hlines
  | cons second others =>
    have hdrop : dropBlankLast (second :: others) = second :: others := by
      obtain ⟨last, hlast?⟩ := List.getLast?_isSome.2 (List.cons_ne_nil second others) |>
        Option.isSome_iff_exists.1
      rw [dropBlankLast, hlast?]
      simp [hlast last hlast?]
    have htrimmed : trimmedLines (first :: second :: others) =
        first :: dedent (second :: others) := by
      rw [trimmedLines, hdrop]
      simp [hfirst]
    have hkept {m : Text} (hm : m ∈ first :: dedent (second :: others)) {c : Char} (hc : c ∈ m) :
        c ∈ t ∧ c ≠ '\n' := by
      obtain ⟨l, hl, hsuffix⟩ := suffix_of_mem_trimmedLines (htrimmed ▸ hm)
      exact mem_of_mem_splitAtChar (hlines ▸ hl : l ∈ lines t) c (hsuffix.mem hc)
    have htrim : trim t = joinWith ['\n'] (first :: dedent (second :: others)) := by
      rw [trim, hlines, ← htrimmed]
      refine joinContinued_eq_self none (.inl fun h => ?_)
      obtain hsep | ⟨m, hm, hc⟩ := mem_joinWith (htrimmed ▸ h)
      · exact absurd hsep (by decide)
      · exact hslash (hkept hm hc).1
    rw [htrim]
    exact lines_joinWith (by simp) fun m hm hc => (hkept hm hc).2 rfl

/-- Without backslashes, the lines of a trimmed template are those of the template in order. The
first one is as it was, or dropped if it is blank; of the others, a blank last one is dropped, and
they lose indentation that they share. Where no lines are left, no text is. -/
theorem lines_trim {t : Text} (hnewline : '\n' ∈ t) (hslash : '\\' ∉ t) :
    ∃ first body last after kept,
      lines t = first :: (body ++ last) ∧
      last.length ≤ 1 ∧ (∀ l ∈ last, allBlank l = true) ∧
      (last = [] → ∀ l ∈ body.getLast?, allBlank l = false) ∧
      Dedented body after ∧
      kept = (if allBlank first = true then after else first :: after) ∧
      (kept ≠ [] → lines (trim t) = kept) ∧ (kept = [] → trim t = []) := by
  obtain ⟨first, second, others, hlines⟩ := exists_lines_eq hnewline
  obtain ⟨last, hlast, hshort, hblank, hnone⟩ := exists_dropBlankLast (second :: others)
  have hkept (m : Text) (hm : m ∈ trimmedLines (lines t)) (c : Char) (hc : c ∈ m) :
      c ∈ t ∧ c ≠ '\n' := by
    obtain ⟨l, hl, hsuffix⟩ := suffix_of_mem_trimmedLines hm
    exact mem_of_mem_splitAtChar hl c (hsuffix.mem hc)
  -- without backslashes nothing is continued
  have htrim : trim t = joinWith ['\n'] (trimmedLines (lines t)) := by
    rw [trim_of_newline hnewline]
    refine joinContinued_eq_self none (.inl fun h => ?_)
    obtain hsep | ⟨m, hm, hc⟩ := mem_joinWith h
    · exact absurd hsep (by decide)
    · exact hslash (hkept m hm _ hc).1
  refine ⟨first, dropBlankLast (second :: others), last,
    dedent (dropBlankLast (second :: others)), trimmedLines (lines t), ?_, hshort, hblank, ?_,
    dedented_dedent _, ?_, fun hne => ?_, fun hnil => ?_⟩
  · rw [hlines, ← hlast]
  · intro hnil l hl
    rw [hnil, List.append_nil] at hlast
    exact hnone hnil l (hlast ▸ hl)
  · rw [hlines, trimmedLines]
  · rw [htrim]
    exact lines_joinWith hne fun m hm hc => (hkept m hm '\n' hc).2 rfl
  · rw [htrim, hnil]
    rfl

/-- Lines indented by spaces and tabs, a blank one among them, and a blank last line. -/
theorem lines_trim_mixed_indentation :
    let t : Text := "a\n    b\n\t\n  \tc\n \x0c".toList
    '\n' ∈ t ∧ '\\' ∉ t ∧ ∃ after,
      Dedented ["    b".toList, ['\t'], "  \tc".toList] after ∧
        lines (trim t) = ['a'] :: after := by
  intro t
  have hnewline : '\n' ∈ t := by decide
  have hslash : '\\' ∉ t := by decide
  refine ⟨hnewline, hslash, ?_⟩
  obtain ⟨first, body, last, after, kept, hlines, hshort, -, hnone, hdedented, rfl, hkept, -⟩ :=
    lines_trim hnewline hslash
  have hall : lines t =
      ['a'] :: ["    b".toList, ['\t'], "  \tc".toList, [' ', '\x0c']] := by decide
  obtain ⟨rfl, hbody⟩ := List.cons.inj (hall.symm.trans hlines)
  cases last with
  | nil =>
    -- the last line is blank
    rw [List.append_nil] at hbody
    exact absurd (hnone rfl [' ', '\x0c'] (by rw [← hbody]; rfl)) (by decide)
  | cons l more =>
    obtain rfl : more = [] := List.eq_nil_of_length_eq_zero (by simpa using hshort)
    have hsplit : ["    b".toList, ['\t'], "  \tc".toList] ++ [[' ', '\x0c']] = body ++ [l] := hbody
    obtain ⟨rfl, -⟩ := List.append_inj' hsplit rfl
    rw [if_neg (show ¬ allBlank ['a'] = true by decide)] at hkept
    exact ⟨after, hdedented, hkept (by simp)⟩

end Stencil.Template
