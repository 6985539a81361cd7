/-!
# Texts

A text is the list of its code points, so every offset, length and width in this library counts
code points. This module holds the operations that all formats share: what follows a given start,
lines, joining and replacing.
-/

namespace Stencil

/-- A text, as the list of its code points. -/
abbrev Text := List Char

namespace Text

/-! ## The start of a text -/

/-- What follows `p` in a text that starts with `p`; nothing if it does not. -/
def after? : (p s : Text) → Option Text
  | [], s => some s
  | _ :: _, [] => none
  | a :: p, b :: s => if a = b then after? p s else none

@[simp] theorem after?_nil (s : Text) : after? [] s = some s := by cases s <;> rfl

theorem after?_eq_some_iff {p s r : Text} : after? p s = some r ↔ s = p ++ r := by
  induction p generalizing s with
  | nil => simp [eq_comm]
  | cons a p ih =>
    cases s with
    | nil => simp [after?]
    | cons b s =>
      by_cases h : a = b
      · simp [after?, h, ih]
      · simp [after?, h, Ne.symm h]

@[simp] theorem after?_append (p r : Text) : after? p (p ++ r) = some r :=
  after?_eq_some_iff.2 rfl

/-- A non-empty start is followed by less than the whole. -/
theorem length_lt_of_after? {p s r : Text} (hp : p ≠ []) (h : after? p s = some r) :
    r.length < s.length := by
  rw [after?_eq_some_iff] at h
  have : 0 < p.length := List.length_pos_iff.2 hp
  simp [h]; omega

/-- Whether a text starts with `p`. -/
def startsWith (p s : Text) : Bool := (after? p s).isSome

/-! ## Parts -/

/-- The parts of a text between the occurrences of a character; a text without it is one part. -/
def splitAtChar (sep : Char) : Text → List Text
  | [] => [[]]
  | c :: s =>
    if c = sep then [] :: splitAtChar sep s
    else match splitAtChar sep s with
      | [] => [[c]]
      | part :: parts => (c :: part) :: parts

theorem splitAtChar_ne_nil (sep : Char) (s : Text) : splitAtChar sep s ≠ [] := by
  cases s with
  | nil => simp [splitAtChar]
  | cons c s =>
    by_cases h : c = sep
    · simp [splitAtChar, h]
    · cases h' : splitAtChar sep s <;> simp [splitAtChar, h, h']

/-- Texts joined with `sep` between neighbours. -/
def joinWith (sep : Text) : List Text → Text
  | [] => []
  | [s] => s
  | s :: t :: rest => s ++ sep ++ joinWith sep (t :: rest)

theorem joinWith_splitAtChar (sep : Char) (s : Text) : joinWith [sep] (splitAtChar sep s) = s := by
  induction s with
  | nil => rfl
  | cons c s ih =>
    by_cases h : c = sep
    · cases h' : splitAtChar sep s with
      | nil => exact absurd h' (splitAtChar_ne_nil sep s)
      | cons l ls => rw [h'] at ih; simp [splitAtChar, h, h', joinWith, ih]
    · cases h' : splitAtChar sep s with
      | nil => exact absurd h' (splitAtChar_ne_nil sep s)
      | cons l ls =>
        rw [h'] at ih
        cases ls <;> simp_all [splitAtChar, joinWith]

/-- The lines of a text. -/
def lines (s : Text) : List Text := splitAtChar '\n' s

theorem joinWith_lines (s : Text) : joinWith ['\n'] (lines s) = s := joinWith_splitAtChar '\n' s

/-! ## Replacing -/

/-- Every occurrence of the character `c` written as `new`. -/
def replaceChar (c : Char) (new : Text) (s : Text) : Text :=
  s.flatMap fun x => if x = c then new else [x]

/-- At most `count` occurrences of `old`, found from the left and not overlapping, written as
`new`; an empty `old` is found before every character and at the end. -/
def replaceUpTo (old new : Text) : (count : Nat) → Text → Text
  | 0, s => s
  | _ + 1, [] => if old = [] then new else []
  | count + 1, c :: s =>
    if old = [] then new ++ c :: replaceUpTo old new count s
    else match h : after? old (c :: s) with
      | some r => new ++ replaceUpTo old new count r
      | none => c :: replaceUpTo old new (count + 1) s
termination_by _ s => s.length
decreasing_by
  · simp
  · exact length_lt_of_after? (by assumption) h
  · simp

/-- Whether `p` occurs anywhere in a text. -/
def occursIn (p : Text) : Text → Bool
  | [] => p.isEmpty
  | c :: s => startsWith p (c :: s) || occursIn p s

end Text
end Stencil
