import Mathlib.Data.List.Forall2
import Stencil.Text.Basic

/-!
# Lines

A text is its lines with newlines between them, and lines without newlines in them are the lines of
what they are joined to (`lines_joinWith`). A text put after every newline comes in front of every
line but the first (`lines_replaceChar`).
-/

namespace Stencil.Text

/-! ## Splitting and joining -/

theorem splitAtChar_eq_splitOn (sep : Char) (s : Text) : splitAtChar sep s = s.splitOn sep := by
  induction s with
  | nil => rfl
  | cons c s ih =>
    rw [splitAtChar, List.splitOn, List.splitOnP_cons_eq_if_modifyHead, ← List.splitOn, ← ih]
    by_cases h : c = sep
    · simp [h]
    · rw [if_neg h, if_neg (by simpa using h)]
      cases hparts : splitAtChar sep s with
      | nil => exact absurd hparts (splitAtChar_ne_nil sep s)
      | cons part parts => rfl

theorem joinWith_eq_intercalate (sep : Text) (parts : List Text) :
    joinWith sep parts = sep.intercalate parts := by
  induction parts with
  | nil => rfl
  | cons part parts ih =>
    cases parts with
    | nil => rw [joinWith, List.intercalate_singleton]
    | cons next parts => rw [joinWith, ih, List.intercalate_cons_cons]

theorem joinWith_cons_cons (sep s t : Text) (rest : List Text) :
    joinWith sep (s :: t :: rest) = s ++ sep ++ joinWith sep (t :: rest) := rfl

/-- A character of joined texts is one of the separator or one of a text. -/
theorem mem_joinWith {c : Char} {sep : Text} {parts : List Text} (h : c ∈ joinWith sep parts) :
    c ∈ sep ∨ ∃ part ∈ parts, c ∈ part := by
  induction parts with
  | nil => exact absurd h (by simp [joinWith])
  | cons part parts ih =>
    cases parts with
    | nil => exact .inr ⟨part, List.mem_cons_self .., h⟩
    | cons next parts =>
      rw [joinWith_cons_cons, List.mem_append, List.mem_append] at h
      obtain (hpart | hsep) | hrest := h
      · exact .inr ⟨part, List.mem_cons_self .., hpart⟩
      · exact .inl hsep
      · obtain hsep | ⟨p, hp, hc⟩ := ih hrest
        · exact .inl hsep
        · exact .inr ⟨p, List.mem_cons_of_mem part hp, hc⟩

/-- Some of the parts in order, each without characters that it had, are joined to the text without
some characters. -/
theorem joinWith_sublist (sep : Text) {ls ms : List Text}
    (h : List.SublistForall₂ List.Sublist ls ms) : (joinWith sep ls).Sublist (joinWith sep ms) := by
  induction h with
  | nil => exact List.nil_sublist _
  | @cons l m ls ms hlm h ih =>
    cases ms with
    | nil =>
      cases h
      exact hlm
    | cons m' ms =>
      cases ls with
      | nil =>
        rw [joinWith_cons_cons, List.append_assoc]
        exact hlm.trans (List.sublist_append_left ..)
      | cons l' ls => exact (hlm.append (.refl sep)).append ih
  | @cons_right m ls ms h ih =>
    cases ms with
    | nil => exact ih.trans (List.nil_sublist m)
    | cons m' ms => exact ih.trans (List.sublist_append_right ..)

/-- Every part has only characters of the text, and not the one that separates the parts. -/
theorem mem_of_mem_splitAtChar {sep : Char} {s part : Text} (h : part ∈ splitAtChar sep s) :
    ∀ c ∈ part, c ∈ s ∧ c ≠ sep := by
  induction s generalizing part with
  | nil =>
    obtain rfl := List.mem_singleton.1 h
    simp
  | cons a s ih =>
    have hmore {part : Text} (hpart : part ∈ splitAtChar sep s) :
        ∀ c ∈ part, c ∈ a :: s ∧ c ≠ sep := fun c hc =>
      ⟨List.mem_cons_of_mem a (ih hpart c hc).1, (ih hpart c hc).2⟩
    by_cases ha : a = sep
    · rw [splitAtChar, if_pos ha, List.mem_cons] at h
      obtain rfl | h := h
      · simp
      · exact hmore h
    · cases hparts : splitAtChar sep s with
      | nil => exact absurd hparts (splitAtChar_ne_nil sep s)
      | cons first parts =>
        rw [splitAtChar, if_neg ha, hparts] at h
        obtain rfl | h := List.mem_cons.1 h
        · intro c hc
          obtain rfl | hc := List.mem_cons.1 hc
          · exact ⟨List.mem_cons_self .., ha⟩
          · exact hmore (hparts ▸ List.mem_cons_self ..) c hc
        · exact hmore (hparts ▸ List.mem_cons_of_mem first h)

/-! ## Lines -/

theorem not_mem_of_mem_lines {s l : Text} (h : l ∈ lines s) : '\n' ∉ l := fun hnewline =>
  (mem_of_mem_splitAtChar h '\n' hnewline).2 rfl

/-- Lines are the lines of what they are joined to. -/
theorem lines_joinWith {ls : List Text} (hne : ls ≠ []) (hls : ∀ l ∈ ls, '\n' ∉ l) :
    lines (joinWith ['\n'] ls) = ls := by
  rw [lines, splitAtChar_eq_splitOn, joinWith_eq_intercalate]
  exact List.splitOn_intercalate '\n' hls hne

/-- A text with a newline has two lines or more. -/
theorem exists_lines_eq {s : Text} (h : '\n' ∈ s) : ∃ l m rest, lines s = l :: m :: rest := by
  cases hlines : lines s with
  | nil => exact absurd hlines (splitAtChar_ne_nil '\n' s)
  | cons l ls =>
    cases ls with
    | nil =>
      -- a single line is all of the text
      have hs : l = s := by
        rw [← joinWith_lines s, hlines]
        rfl
      have hl : '\n' ∉ l := not_mem_of_mem_lines (hlines ▸ List.mem_cons_self ..)
      exact absurd (hs ▸ h) hl
    | cons m rest => exact ⟨l, m, rest, rfl⟩

/-! ## Texts after newlines -/

theorem replaceChar_append (c : Char) (new s t : Text) :
    replaceChar c new (s ++ t) = replaceChar c new s ++ replaceChar c new t :=
  List.flatMap_append ..

theorem replaceChar_eq_self {c : Char} {s : Text} (new : Text) (h : c ∉ s) :
    replaceChar c new s = s := by
  induction s with
  | nil => rfl
  | cons a s ih =>
    rw [List.mem_cons, not_or] at h
    have hstep : replaceChar c new (a :: s) = [a] ++ replaceChar c new s := by
      simp [replaceChar, Ne.symm h.1]
    rw [hstep, ih h.2]
    rfl

/-- A text after every newline of joined lines is one in front of every line but the first. -/
theorem replaceChar_joinWith (p : Text) {l : Text} {ls : List Text}
    (hls : ∀ m ∈ l :: ls, '\n' ∉ m) :
    replaceChar '\n' ('\n' :: p) (joinWith ['\n'] (l :: ls)) =
      joinWith ['\n'] (l :: ls.map (p ++ ·)) := by
  induction ls generalizing l with
  | nil => exact replaceChar_eq_self _ (hls l (List.mem_cons_self ..))
  | cons m ls ih =>
    have hl : '\n' ∉ l := hls l (List.mem_cons_self ..)
    have hrest := ih fun k hk => hls k (List.mem_cons_of_mem l hk)
    have hnewline : replaceChar '\n' ('\n' :: p) ['\n'] = '\n' :: p := by simp [replaceChar]
    rw [joinWith_cons_cons, replaceChar_append, replaceChar_append, replaceChar_eq_self _ hl,
      hnewline, hrest]
    -- the text stands in front of the next line, which is the first of what is left
    cases ls <;> simp [joinWith]

/-- The lines of a text with another after every newline. -/
theorem lines_replaceChar {p s l : Text} {ls : List Text} (hp : '\n' ∉ p)
    (hlines : lines s = l :: ls) :
    lines (replaceChar '\n' ('\n' :: p) s) = l :: ls.map (p ++ ·) := by
  have hls : ∀ m ∈ l :: ls, '\n' ∉ m := fun m hm => not_mem_of_mem_lines (hlines ▸ hm)
  have hnew : ∀ m ∈ l :: ls.map (p ++ ·), '\n' ∉ m := by
    intro m hm
    obtain rfl | hm := List.mem_cons.1 hm
    · exact hls m (List.mem_cons_self ..)
    · obtain ⟨k, hk, rfl⟩ := List.mem_map.1 hm
      rw [List.mem_append, not_or]
      exact ⟨hp, hls k (List.mem_cons_of_mem l hk)⟩
  rw [← joinWith_lines s, hlines, replaceChar_joinWith p hls]
  exact lines_joinWith (by simp) hnew

end Stencil.Text
