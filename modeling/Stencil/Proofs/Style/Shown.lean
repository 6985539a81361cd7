import Mathlib.Data.List.Forall2
import Mathlib.Data.List.TakeWhile
import Stencil.Proofs.Text.Lines
import Stencil.Style.Paint

/-!
# What styled text shows

A coded text is made of characters that are shown and of sequences of style codes (`Coded`). Reading
it gives back what it shows, whatever the codes are (`Coded.plainText_eq`), and painting it gives
another coded text that shows the same (`Coded.paint`). Main statement:
`map_plainText_paintAll`, a text painted in one style after another still shows itself.
-/

namespace Stencil

open Text

/-! ## Coded texts -/

/-- A character that styled text shows: it starts no escape sequence, and it is not left out. -/
def IsShown (c : Char) : Prop := c ≠ escape ∧ isHidden c = false

/-- A character that may stand in a sequence of codes: a digit, or a mark between numbers. -/
def IsCode (c : Char) : Prop := charIn '0' '?' c = true

instance (c : Char) : Decidable (IsCode c) := inferInstanceAs (Decidable (_ = true))

/-- A text with sequences of style codes in it, and what it shows. -/
inductive Coded : Text → Text → Prop
  | nil : Coded [] []
  | char {c : Char} {s t : Text} (hc : IsShown c) (h : Coded s t) : Coded (c :: s) (c :: t)
  | codes {codes s t : Text} (hcodes : ∀ c ∈ codes, IsCode c) (h : Coded s t) :
    Coded (escape :: '[' :: (codes ++ 'm' :: s)) t

namespace Coded

variable {s t : Text}

/-- A text of which every character is shown has no codes in it. -/
theorem of_isShown (h : ∀ c ∈ t, IsShown c) : Coded t t := by
  induction t with
  | nil => exact .nil
  | cons c t ih => exact .char (h c (List.mem_cons_self ..)) (ih fun d hd => h d (.tail c hd))

theorem isShown (h : Coded s t) : ∀ c ∈ t, IsShown c := by
  induction h with
  | nil => simp
  | char hc _ ih => exact List.forall_mem_cons.2 ⟨hc, ih⟩
  | codes _ _ ih => exact ih

theorem append {s' t' : Text} (h : Coded s t) (h' : Coded s' t') : Coded (s ++ s') (t ++ t') := by
  induction h with
  | nil => exact h'
  | char hc _ ih => exact .char hc ih
  | codes hcodes _ ih =>
    have := Coded.codes hcodes ih
    simpa using this

/-- A coded text without an escape character is what it shows. -/
theorem eq_of_not_mem (h : Coded s t) (hs : escape ∉ s) : s = t := by
  induction h with
  | nil => rfl
  | char _ _ ih => rw [ih fun hmem => hs (.tail _ hmem)]
  | codes => exact absurd (List.mem_cons_self ..) hs

/-- Codes are no movements to other places in a line. -/
theorem return_not_mem (h : Coded s t) : '\r' ∉ s := by
  induction h with
  | nil => simp
  | @char c _ _ hc _ ih =>
    have hne : '\r' ≠ c := by
      rintro rfl
      exact absurd hc.2 (by decide)
    simpa [hne] using ih
  | @codes codes _ _ hcodes _ ih =>
    have hmem : '\r' ∉ codes := fun hmem => absurd (hcodes _ hmem) (by decide)
    simp [hmem, ih, escape]

end Coded

/-! ## Lines of coded texts -/

/-- A text without newlines stands at the start of the first line. -/
theorem Text.lines_append {p : Text} (hp : '\n' ∉ p) (s : Text) :
    lines (p ++ s) = (lines s).modifyHead (p ++ ·) := by
  induction p with
  | nil =>
    have hid : (fun line : Text => [] ++ line) = id := rfl
    rw [hid, List.modifyHead_id]
    rfl
  | cons c p ih =>
    rw [List.mem_cons, not_or] at hp
    have hrest := ih hp.2
    rw [Text.lines, Text.lines] at hrest ⊢
    rw [List.cons_append, splitAtChar, if_neg (Ne.symm hp.1), hrest]
    cases hs : splitAtChar '\n' s with
    | nil => exact absurd hs (splitAtChar_ne_nil '\n' s)
    | cons line ls => rfl

theorem forall₂_modifyHead {α β : Type} {R : α → β → Prop} {f : α → α} {g : β → β} {l : List α}
    {m : List β} (h : List.Forall₂ R l m) (hhead : ∀ a b, R a b → R (f a) (g b)) :
    List.Forall₂ R (l.modifyHead f) (m.modifyHead g) := by
  cases h with
  | nil => exact .nil
  | cons hab hrest => exact .cons (hhead _ _ hab) hrest

/-- Line by line, a coded text shows the lines of what it shows. -/
theorem Coded.lines {s t : Text} (h : Coded s t) : List.Forall₂ Coded (lines s) (lines t) := by
  induction h with
  | nil => exact .cons .nil .nil
  | @char c s t hc _ ih =>
    by_cases hnewline : c = '\n'
    · simp only [Text.lines, splitAtChar, if_pos hnewline]
      exact .cons .nil ih
    · have hmem : '\n' ∉ [c] := by simpa using Ne.symm hnewline
      have hs : Text.lines (c :: s) = _ := Text.lines_append hmem s
      have ht : Text.lines (c :: t) = _ := Text.lines_append hmem t
      rw [hs, ht]
      exact forall₂_modifyHead ih fun _ _ => Coded.char hc
  | @codes codes s t hcodes _ ih =>
    have hmem : '\n' ∉ escape :: '[' :: (codes ++ ['m']) := by
      have hnone : '\n' ∉ codes := fun hmem => absurd (hcodes _ hmem) (by decide)
      simp [hnone, escape]
    have hs : escape :: '[' :: (codes ++ 'm' :: s) = (escape :: '[' :: (codes ++ ['m'])) ++ s := by
      simp
    have hline := forall₂_modifyHead (f := ((escape :: '[' :: (codes ++ ['m'])) ++ ·)) (g := id) ih
      fun line shown hline => by simpa using Coded.codes hcodes hline
    rw [List.modifyHead_id] at hline
    rw [hs, Text.lines_append hmem]
    exact hline

/-! ## Reading -/

/-- Codes are read as one sequence, which ends where they do. -/
theorem escapeSequence?_codes {codes : Text} (hcodes : ∀ c ∈ codes, IsCode c) (s : Text) :
    escapeSequence? ('[' :: (codes ++ 'm' :: s)) = some ⟨codes.length + 2, some codes, false⟩ := by
  have hstop : charIn '0' '?' 'm' = false := by decide
  have hbetween : charIn ' ' '/' 'm' = false := by decide
  have hfinal : charIn '@' '~' 'm' = true := by decide
  have hparameters : (codes ++ 'm' :: s).takeWhile (charIn '0' '?') = codes := by
    rw [List.takeWhile_append_of_pos hcodes, List.takeWhile_cons_of_neg (by simp [hstop]),
      List.append_nil]
  have hsequence : escapeSequence? ('[' :: (codes ++ 'm' :: s)) =
      controlSequence? (codes ++ 'm' :: s) := rfl
  simp [hsequence, controlSequence?, hparameters, hbetween, hfinal]

/-- The runs of a line have the text that the line shows, whatever style it starts in. -/
theorem Coded.lineRuns {line shown : Text} (h : Coded line shown) (style : Style)
    (current : Text) :
    (lineRuns style false current line).1.flatMap StyledRun.text = current.reverse ++ shown := by
  induction h generalizing style current with
  | nil =>
    rw [Stencil.lineRuns]
    split <;> simp_all
  | @char c s t hc _ ih =>
    rw [Stencil.lineRuns, if_neg hc.1]
    simp [ih]
  | @codes codes s t hcodes _ ih =>
    have hdrop : ('[' :: (codes ++ 'm' :: s)).drop (codes.length + 2) = s := by
      simp
    rw [Stencil.lineRuns, if_pos rfl, escapeSequence?_codes hcodes]
    simp only [hdrop]
    by_cases hcurrent : current = []
    · simp [hcurrent, ih]
    · simp [hcurrent, ih]

theorem filter_isHidden_eq_self {t : Text} (h : ∀ c ∈ t, IsShown c) :
    t.filter (!isHidden ·) = t :=
  List.filter_eq_self.2 fun c hc => by simp [(h c hc).2]

/-- Read line by line, a coded text is what it shows. -/
theorem flatMap_text_decodeLines {ls shown : List Text} (h : List.Forall₂ Coded ls shown)
    (style : Style) :
    (decodeLines style ls).map (fun runs => runs.flatMap StyledRun.text) = shown := by
  induction h generalizing style with
  | nil => rfl
  | @cons line t ls ts hline _ ih =>
    have hreturn : afterReturn line = line := by
      rw [afterReturn, List.takeWhile_eq_self_iff.2, List.reverse_reverse]
      intro c hc
      have hne : c ≠ '\r' := fun heq => hline.return_not_mem (heq ▸ List.mem_reverse.1 hc)
      simpa using hne
    have hruns := hline.lineRuns style []
    have hshown : (lineRuns style false [] line).1.flatMap
        (fun r => r.text.filter (!isHidden ·)) = t := by
      have hfilter : (lineRuns style false [] line).1.flatMap
          (fun r => r.text.filter (!isHidden ·)) =
          ((lineRuns style false [] line).1.flatMap StyledRun.text).filter (!isHidden ·) :=
        List.filter_flatMap.symm
      rw [hfilter, hruns]
      exact filter_isHidden_eq_self hline.isShown
    rw [decodeLines, hreturn]
    simp [List.flatMap_map, hshown, ih]

theorem Coded.plainText_eq {s t : Text} (h : Coded s t) : plainText s = t := by
  rw [plainText, decode, flatMap_text_decodeLines h.lines .null, joinWith_lines]

/-! ## Painting -/

theorem isShown_newline : IsShown '\n' := ⟨by decide, by decide⟩

theorem isCode_of_isDigit {c : Char} (h : c.isDigit = true) : IsCode c := by
  obtain ⟨hleast, hgreatest⟩ := Char.isDigit_iff_toNat.1 h
  simp only [IsCode, charIn, Bool.and_eq_true, decide_eq_true_eq]
  exact ⟨hleast, hgreatest.trans (by decide)⟩

/-- A piece of text is painted with codes around it, or as it is. -/
theorem coded_paintPiece (style : Style) {piece : Text} (h : ∀ c ∈ piece, IsShown c) :
    Coded (style.paintPiece piece) piece := by
  have hplain := Coded.of_isShown h
  have hcodes : ∀ c ∈ joinWith [';'] (style.codes.map codeText), IsCode c := by
    intro c hc
    obtain hsep | ⟨digits, hdigits, hc⟩ := mem_joinWith hc
    · obtain rfl := List.mem_singleton.1 hsep
      decide
    · obtain ⟨n, -, rfl⟩ := List.mem_map.1 hdigits
      exact isCode_of_isDigit (Nat.isDigit_of_mem_toDigits (by decide) (by decide) hc)
  have hreset : Coded [escape, '[', '0', 'm'] [] := by
    have hzero : ∀ c ∈ ['0'], IsCode c := by
      rintro c hc
      obtain rfl := List.mem_singleton.1 hc
      decide
    exact .codes hzero .nil
  rw [Style.paintPiece]
  split
  · exact hplain
  · split
    · rename_i hnone
      exact hnone ▸ .nil
    · have hpainted := Coded.codes hcodes (hplain.append hreset)
      simpa using hpainted

/-- Putting neighbours together and leaving out empty ones changes no text. -/
theorem flatMap_text_pieces (separate : Bool) (runs : List StyledRun) :
    (pieces separate runs).flatMap StyledRun.text = runs.flatMap StyledRun.text := by
  let keeps := fun r : StyledRun => (separate && !r.style.isNull) || !r.text.isEmpty
  have hkept : (runs.filter keeps).flatMap StyledRun.text = runs.flatMap StyledRun.text := by
    induction runs with
    | nil => rfl
    | cons r runs ih =>
      by_cases hr : keeps r = true
      · rw [List.filter_cons_of_pos hr, List.flatMap_cons, ih, List.flatMap_cons]
      · have hempty : r.text = [] := by
          simp only [keeps, Bool.or_eq_true, not_or] at hr
          simpa using hr.2
        rw [List.filter_cons_of_neg hr, ih, List.flatMap_cons, hempty, List.nil_append]
  rw [← hkept, pieces]
  change (List.foldr _ [] (runs.filter keeps)).flatMap StyledRun.text = _
  generalize runs.filter keeps = kept
  induction kept with
  | nil => rfl
  | cons r kept ih =>
    rw [List.foldr_cons, List.flatMap_cons, ← ih]
    generalize List.foldr _ [] kept = done
    -- a run is joined with the next one, or stands before it
    cases done with
    | nil => rfl
    | cons next rest =>
      simp only
      split
      · rw [List.flatMap_cons, List.flatMap_cons, List.append_assoc]
      · rfl

/-- The runs that a coded text is painted as have the text that it shows. -/
theorem Coded.paintRuns {s t : Text} (h : Coded s t) :
    (Stencil.paintRuns s).map (fun runs => runs.flatMap StyledRun.text) = Text.lines t := by
  by_cases hescape : escape ∈ s
  · rw [Stencil.paintRuns, if_pos (by simpa using hescape), decode, List.map_map]
    simp only [Function.comp_def, flatMap_text_pieces]
    exact flatMap_text_decodeLines h.lines .null
  · obtain rfl := h.eq_of_not_mem hescape
    rw [Stencil.paintRuns, if_neg (by simpa using hescape), filter_isHidden_eq_self h.isShown]
    simp [List.map_map, Function.comp_def]

theorem Coded.joinWith_lines {ls shown : List Text} (h : List.Forall₂ Coded ls shown) :
    Coded (joinWith ['\n'] ls) (joinWith ['\n'] shown) := by
  induction h with
  | nil => exact .nil
  | @cons line t ls ts hline hrest ih =>
    cases hrest with
    | nil => exact hline
    | cons =>
      exact (hline.append (.char isShown_newline .nil)).append ih

theorem Coded.flatMap {α : Type} {f g : α → Text} {l : List α}
    (h : ∀ a ∈ l, Coded (f a) (g a)) : Coded (l.flatMap f) (l.flatMap g) := by
  induction l with
  | nil => exact .nil
  | cons a l ih =>
    rw [List.flatMap_cons, List.flatMap_cons]
    exact (h a (List.mem_cons_self ..)).append (ih fun b hb => h b (.tail a hb))

/-- A coded text is painted as one that shows the same. -/
theorem Coded.paint {s t : Text} (h : Coded s t) (system : ColorSystem) (style : Style) :
    Coded (Stencil.paint system style s) t := by
  have htexts := h.paintRuns
  have hshown : ∀ runs ∈ Stencil.paintRuns s, ∀ r ∈ runs, ∀ c ∈ r.text, IsShown c := by
    intro runs hruns r hr c hc
    have hline : runs.flatMap StyledRun.text ∈ Text.lines t := htexts ▸ List.mem_map_of_mem hruns
    have hmem : c ∈ runs.flatMap StyledRun.text := List.mem_flatMap.2 ⟨r, hr, hc⟩
    exact h.isShown c (mem_of_mem_splitAtChar hline c hmem).1
  rw [Stencil.paint, ← Text.joinWith_lines t, ← htexts]
  refine Coded.joinWith_lines ?_
  rw [List.forall₂_map_left_iff, List.forall₂_map_right_iff, List.forall₂_same]
  refine fun runs hruns => Coded.flatMap fun r hr => ?_
  cases system with
  | plain => exact .of_isShown (hshown runs hruns r hr)
  | full => exact coded_paintPiece _ (hshown runs hruns r hr)

/-! ## Painting again and again -/

/-- A control character. -/
def IsControl (c : Char) : Prop := c.toNat < 32 ∨ 127 ≤ c.toNat ∧ c.toNat < 160

instance (c : Char) : Decidable (IsControl c) := inferInstanceAs (Decidable (_ ∨ _))

/-- All characters that are not shown are control characters. -/
theorem isShown_of_not_isControl {c : Char} (h : ¬ IsControl c) : IsShown c := by
  constructor
  · rintro rfl
    exact h (by decide)
  · rw [Bool.eq_false_iff]
    intro hhidden
    simp only [isHidden, Bool.or_eq_true, beq_iff_eq] at hhidden
    obtain (((rfl | rfl) | rfl) | rfl) | rfl := hhidden <;> exact h (by decide)

/-- A text painted in one style after another, each time as it was painted before. -/
def paintAll (steps : List (ColorSystem × Style)) (s : Text) : Text :=
  steps.foldl (fun s step => paint step.1 step.2 s) s

theorem Coded.paintAll {s t : Text} (h : Coded s t) (steps : List (ColorSystem × Style)) :
    Coded (Stencil.paintAll steps s) t := by
  induction steps generalizing s with
  | nil => exact h
  | cons step steps ih => exact ih (h.paint step.1 step.2)

/-- A text without control characters, painted in any number of styles one after another, is what is
left when the styles are taken off again. -/
theorem map_plainText_paintAll {t : Text} (h : ∀ c ∈ t, ¬ IsControl c)
    (steps : List (ColorSystem × Style)) : [paintAll steps t].map plainText = [t] := by
  have hcoded := (Coded.of_isShown fun c hc => isShown_of_not_isControl (h c hc)).paintAll steps
  rw [List.map_singleton, hcoded.plainText_eq]

/-- A text with blanks at its end, first in a colour of the terminal, then in bold, and at last on a
background that has components. -/
theorem map_plainText_paintAll_nested :
    let t : Text := "[0m é ".toList
    let background : Color := ⟨"#0a0b0c".toList, .components 10 11 12⟩
    let steps : List (ColorSystem × Style) := [
      (.full, .ofForeground ⟨"red".toList, .numbered 1⟩), (.full, .setting .bold true),
      (.full, .ofBackground background)]
    (∀ c ∈ t, ¬ IsControl c) ∧ [paintAll steps t].map plainText = [t] ∧
      paintAll steps t = "\x1b[1;31;48;2;10;11;12m[0m é \x1b[0m".toList := by
  intro t background steps
  have hall : t.all (fun c => !decide (IsControl c)) = true := by decide
  have h : ∀ c ∈ t, ¬ IsControl c := by simpa using hall
  exact ⟨h, map_plainText_paintAll h steps, by decide +kernel⟩

end Stencil
