import Stencil.Proofs.Quote.ShellWords

/-!
# Distinct arguments

Quoting puts an escape character in front of certain characters, and a text may have that character
in it already. Nothing is confused by that (`unescapedBy_escapedBy`). An escape character that is
special itself (the caret) is always written with another one in front of it. One that is not (the
backslash) is written as it is and never comes to stand in front of a special character by chance,
since what is written there is that character's own escape character. Main statement:
`quote_eq_quote_iff`, texts that differ are different arguments for every shell.
-/

namespace Stencil.Shell

/-! ## Escape characters -/

section

variable (mark : Char) (special : Char → Bool)

/-- A text with the escape character `mark` in front of each special character. -/
def escapedBy (s : Text) : Text := s.flatMap fun c => if special c then [mark, c] else [c]

/-- A text without the escape characters that stand in front of special characters. -/
def unescapedBy : Text → Text
  | [] => []
  | [c] => [c]
  | c :: d :: s =>
    if c = mark ∧ special d = true then d :: unescapedBy s else c :: unescapedBy (d :: s)

variable {mark special}

theorem escapedBy_cons_of_special {c : Char} (h : special c = true) (s : Text) :
    escapedBy mark special (c :: s) = mark :: c :: escapedBy mark special s := by
  simp [escapedBy, h]

theorem escapedBy_cons_of_not_special {c : Char} (h : special c = false) (s : Text) :
    escapedBy mark special (c :: s) = c :: escapedBy mark special s := by
  simp [escapedBy, h]

/-- If the escape character is not special, an escaped text does not start with a special one. -/
theorem head?_escapedBy (hmark : special mark = false) (s : Text) :
    ∀ c ∈ (escapedBy mark special s).head?, special c = false := by
  intro c hc
  cases s with
  | nil => exact absurd hc (by simp [escapedBy])
  | cons d s =>
    cases hd : special d with
    | true =>
      rw [escapedBy_cons_of_special hd] at hc
      exact Option.some.inj hc ▸ hmark
    | false =>
      rw [escapedBy_cons_of_not_special hd] at hc
      exact Option.some.inj hc ▸ hd

theorem unescapedBy_escape {d : Char} (h : special d = true) (s : Text) :
    unescapedBy mark special (mark :: d :: s) = d :: unescapedBy mark special s := by
  rw [unescapedBy, if_pos ⟨rfl, h⟩]

/-- A character stays if it is no escape character in front of a special one. -/
theorem unescapedBy_cons {c : Char} {s : Text}
    (h : c = mark → ∀ d ∈ s.head?, special d = false) :
    unescapedBy mark special (c :: s) = c :: unescapedBy mark special s := by
  cases s with
  | nil => rfl
  | cons d s =>
    have hnot : ¬ (c = mark ∧ special d = true) := by
      rintro ⟨hc, hd⟩
      exact absurd (h hc d rfl) (by simp [hd])
    rw [unescapedBy, if_neg hnot]

/-- Taking the escape characters away gives back what was escaped. -/
theorem unescapedBy_escapedBy (s : Text) :
    unescapedBy mark special (escapedBy mark special s) = s := by
  induction s with
  | nil => rfl
  | cons c s ih =>
    cases hc : special c with
    | true => rw [escapedBy_cons_of_special hc, unescapedBy_escape hc, ih]
    | false =>
      -- if this is the escape character, it is not special, and no special character follows
      have hnext : c = mark → ∀ d ∈ (escapedBy mark special s).head?, special d = false := by
        rintro rfl
        exact head?_escapedBy hc s
      rw [escapedBy_cons_of_not_special hc, unescapedBy_cons hnext, ih]

theorem escapedBy_injective : Function.Injective (escapedBy mark special) :=
  Function.LeftInverse.injective unescapedBy_escapedBy

end

/-! ## Shells -/

/-- An escape character in front of each occurrence of a single character. -/
theorem replaceChar_eq_escapedBy (mark c : Char) (s : Text) :
    Text.replaceChar c [mark, c] s = escapedBy mark (· == c) s := by
  refine congrArg s.flatMap (funext fun d => ?_)
  by_cases h : d = c
  · subst h
    simp
  · simp [h]

/-- The POSIX shell reads an argument back, so no other text has the same one. -/
theorem quoteSh_injective : Function.Injective quoteSh := by
  intro s t h
  have hs := run_quoteSh s []
  rw [h, run_quoteSh] at hs
  exact (Reader.mk.inj hs).2.1.symm

theorem between_quotes_injective :
    Function.Injective fun body : Text => '"' :: body ++ ['"'] := by
  intro s t h
  exact List.append_cancel_right (List.cons.inj h).2

theorem quote_injective (shell : Shell) : Function.Injective shell.quote := by
  cases shell with
  | sh => exact quoteSh_injective
  | csh =>
    have hquote : csh.quote = escapedBy '\\' (· == '!') ∘ quoteSh :=
      funext fun s => replaceChar_eq_escapedBy '\\' '!' (quoteSh s)
    rw [hquote]
    exact escapedBy_injective.comp quoteSh_injective
  | cmd =>
    have hquote : cmd.quote = (fun body => '"' :: body ++ ['"']) ∘ escapedBy '\\' (· == '"') := by
      funext s
      rw [Function.comp_apply, ← replaceChar_eq_escapedBy]
      rfl
    rw [hquote]
    exact between_quotes_injective.comp escapedBy_injective
  | cmd2 =>
    have hquote : cmd2.quote = (fun body => '"' :: body ++ ['"']) ∘ escapedBy '^' isSpecial := rfl
    rw [hquote]
    exact between_quotes_injective.comp escapedBy_injective

/-- For every shell, two texts are quoted to the same argument only if they are the same text. -/
theorem quote_eq_quote_iff (shell : Shell) (s t : Text) :
    shell.quote s = shell.quote t ↔ s = t :=
  (quote_injective shell).eq_iff

end Stencil.Shell
