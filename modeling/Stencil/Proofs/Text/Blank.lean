import Mathlib.Data.List.Basic
import Stencil.Text.Blank

/-!
# Texts without white space around them

When a text has nothing to strip. Main statement: `strip_eq_self_iff`.
-/

namespace Stencil.Text

variable {p : Char → Bool} {s : Text}

theorem dropWhile_eq_self_iff_head? : s.dropWhile p = s ↔ ∀ c ∈ s.head?, p c = false := by
  cases s with
  | nil => simp
  | cons c s =>
    cases hc : p c with
    | false => simp [hc]
    | true =>
      have hshort := (List.dropWhile_suffix (l := s) p).length_le
      rw [List.dropWhile_cons_of_pos hc]
      refine iff_of_false (fun h => ?_) (by simp [hc])
      have := congrArg List.length h
      rw [List.length_cons] at this
      omega

theorem dropEnd_eq_self_iff : dropEnd p s = s ↔ ∀ c ∈ s.getLast?, p c = false := by
  rw [dropEnd, List.reverse_eq_iff, dropWhile_eq_self_iff_head?, List.head?_reverse]

theorem length_dropEnd_le : (dropEnd p s).length ≤ s.length := by
  have hshort : (s.reverse.dropWhile p).length ≤ s.reverse.length :=
    (List.dropWhile_suffix p).length_le
  rwa [dropEnd, List.length_reverse, ← s.length_reverse]

/-- A text without white space at its ends is all that is left when it is stripped. -/
theorem strip_eq_self_iff :
    strip s = s ↔
      (∀ c ∈ s.head?, isBlank c = false) ∧ ∀ c ∈ s.getLast?, isBlank c = false := by
  rw [← dropWhile_eq_self_iff_head?, ← dropEnd_eq_self_iff, strip, stripWhere]
  constructor
  · intro h
    -- nothing is lost at the start, or the text would be shorter in the end
    have hshort : (dropEnd isBlank (s.dropWhile isBlank)).length ≤ (s.dropWhile isBlank).length :=
      length_dropEnd_le
    rw [h] at hshort
    have hstart := (List.dropWhile_suffix (l := s) isBlank).eq_of_length_le hshort
    rw [hstart] at h
    exact ⟨hstart, h⟩
  · rintro ⟨hstart, hend⟩
    rw [hstart, hend]

end Stencil.Text
