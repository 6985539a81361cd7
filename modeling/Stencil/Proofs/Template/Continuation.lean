import Mathlib.Data.List.Basic
import Stencil.Proofs.Text.Lines
import Stencil.Template.Trim

/-!
# Continued lines

Whether a line is continued can be told from the backslashes at its end. Main statement:
`joinContinued_joinWith`, joining what is continued in a text is joining its lines by that rule
(`joinLines`), which looks at each line as it was before any were joined.

A continuation is pairs of backslashes, one more and a newline (`continuation?_eq_some_iff`). A text
is read one run of backslashes at a time (`joinContinued_backslashes`). Only the start of a run can
start a continuation, so all of the run counts; a run that is not at the end of its line stays as it
is.
-/

namespace Stencil.Template

/-! ## The rule for lines -/

/-- How many backslashes a line ends with. -/
def trailingBackslashes (line : Text) : Nat := (line.reverse.takeWhile (· == '\\')).length

/-- Lines joined by newlines, except that one which ends in an odd number of backslashes continues
on the next line in place of the last of them. -/
def joinLines : List Text → Text
  | [] => []
  | [l] => l
  | l :: m :: rest =>
    if trailingBackslashes l % 2 = 1 then l.dropLast ++ joinLines (m :: rest)
    else l ++ '\n' :: joinLines (m :: rest)

/-! ## Runs of backslashes -/

/-- A run of backslashes. -/
def backslashes (n : Nat) : Text := List.replicate n '\\'

@[simp] theorem backslashes_zero : backslashes 0 = [] := rfl

theorem backslashes_succ (n : Nat) : backslashes (n + 1) = '\\' :: backslashes n :=
  List.replicate_succ

theorem trailingBackslashes_backslashes (n : Nat) : trailingBackslashes (backslashes n) = n := by
  simp [trailingBackslashes, backslashes]

/-- What stands in front of another character makes no difference to the end of a line. -/
theorem trailingBackslashes_append {c : Char} (hc : c ≠ '\\') (u l : Text) :
    trailingBackslashes (u ++ c :: l) = trailingBackslashes l := by
  have hreverse : (u ++ c :: l).reverse = l.reverse ++ c :: u.reverse := by simp
  have hstop : (c :: u.reverse).takeWhile (· == '\\') = [] := by simp [hc]
  rw [trailingBackslashes, hreverse, List.takeWhile_append, hstop, List.append_nil]
  split
  · rename_i hall
    exact hall.symm
  · rfl

/-- A line is a run of backslashes, or starts with one that another character ends. -/
theorem exists_backslashes (l : Text) :
    (∃ n, l = backslashes n) ∨ ∃ n c rest, c ≠ '\\' ∧ l = backslashes n ++ c :: rest := by
  induction l with
  | nil => exact .inl ⟨0, rfl⟩
  | cons a l ih =>
    by_cases ha : a = '\\'
    · subst ha
      obtain ⟨n, rfl⟩ | ⟨n, c, rest, hc, rfl⟩ := ih
      · exact .inl ⟨n + 1, rfl⟩
      · exact .inr ⟨n + 1, c, rest, hc, rfl⟩
    · exact .inr ⟨0, a, l, ha, rfl⟩

/-! ## Reading a run -/

/-- A run is continued if it is odd and a newline follows. -/
theorem continuation?_backslashes {c : Char} (hc : c ≠ '\\') (t : Text) : ∀ n,
    continuation? (backslashes n ++ c :: t) =
      if n % 2 = 1 ∧ c = '\n' then some (backslashes (n - 1), t) else none
  | 0 => by simp [continuation?, hc]
  | 1 => by
    by_cases hnewline : c = '\n'
    · simp [backslashes, continuation?, hnewline]
    · simp [backslashes, continuation?, hnewline, hc]
  | n + 2 => by
    have ih := continuation?_backslashes hc t n
    have hstep : continuation? (backslashes (n + 2) ++ c :: t) =
        (continuation? (backslashes n ++ c :: t)).map fun m => ('\\' :: '\\' :: m.1, m.2) := by
      rw [backslashes_succ, backslashes_succ]
      rfl
    rw [hstep, ih, Nat.add_mod_right]
    by_cases hodd : n % 2 = 1 ∧ c = '\n'
    · -- an odd run has a backslash to spare for the pairs to stand before it
      obtain ⟨k, rfl⟩ : ∃ k, n = k + 1 := ⟨n - 1, by omega⟩
      rw [if_pos hodd, if_pos hodd]
      rfl
    · rw [if_neg hodd, if_neg hodd]
      rfl

/-- A continuation is pairs of backslashes, which are kept, and then one more and a newline. -/
theorem continuation?_eq_some_iff {s : Text} {m : Text × Text} :
    continuation? s = some m ↔
      ∃ n, m.1 = backslashes (2 * n) ∧ s = backslashes (2 * n) ++ '\\' :: '\n' :: m.2 := by
  constructor
  · intro h
    -- on the pairs that are taken
    fun_induction continuation? s generalizing m with
    | case1 s ih =>
      obtain ⟨m', hm', rfl⟩ := Option.map_eq_some_iff.1 h
      obtain ⟨n, hkept, rfl⟩ := ih hm'
      have hpair : backslashes (2 * (n + 1)) = '\\' :: '\\' :: backslashes (2 * n) := rfl
      exact ⟨n + 1, by rw [hpair, hkept], by rw [hpair]; rfl⟩
    | case2 s =>
      obtain rfl := Option.some.inj h
      exact ⟨0, rfl, rfl⟩
    | case3 => exact absurd h (by simp)
  · rintro ⟨n, hkept, rfl⟩
    have hrun : backslashes (2 * n) ++ '\\' :: '\n' :: m.2 =
        backslashes (2 * n + 1) ++ '\n' :: m.2 := by
      simp [backslashes, List.replicate_succ']
    rw [hrun, continuation?_backslashes (by decide), if_pos ⟨by omega, rfl⟩, Nat.add_sub_cancel,
      ← hkept]

/-- After a backslash nothing is continued. -/
theorem joinContinued_escaped (c : Char) (s : Text) :
    joinContinued (some '\\') (c :: s) = c :: joinContinued (some c) s := by
  rw [joinContinued, if_pos rfl]

section

variable {before : Option Char} (hbefore : before ≠ some '\\')
include hbefore

theorem joinContinued_of_some {c : Char} {s : Text} {m : Text × Text}
    (h : continuation? (c :: s) = some m) :
    joinContinued before (c :: s) = m.1 ++ joinContinued (some '\n') m.2 := by
  rw [joinContinued, if_neg hbefore]
  split
  · rename_i m' hm'
    obtain rfl : m' = m := Option.some.inj (hm'.symm.trans h)
    rfl
  · rename_i hnone
    exact absurd (hnone.symm.trans h) (by simp)

theorem joinContinued_of_none {c : Char} {s : Text} (h : continuation? (c :: s) = none) :
    joinContinued before (c :: s) = c :: joinContinued (some c) s := by
  rw [joinContinued, if_neg hbefore]
  split
  · rename_i m hm
    exact absurd (hm.symm.trans h) (by simp)
  · rfl

end

/-- Inside a run nothing is continued. -/
theorem joinContinued_inside (c : Char) (t : Text) (n : Nat) :
    joinContinued (some '\\') (backslashes n ++ c :: t) =
      backslashes n ++ c :: joinContinued (some c) t := by
  induction n with
  | zero => exact joinContinued_escaped c t
  | succ n ih =>
    rw [backslashes_succ, List.cons_append, joinContinued_escaped, ih]
    rfl

/-- Reading a run from its start, either the run is continued or it stays with what ends it. -/
theorem joinContinued_backslashes {before : Option Char} (hbefore : before ≠ some '\\') {c : Char}
    (hc : c ≠ '\\') (t : Text) (n : Nat) :
    joinContinued before (backslashes n ++ c :: t) =
      if n % 2 = 1 ∧ c = '\n' then backslashes (n - 1) ++ joinContinued (some '\n') t
      else backslashes n ++ c :: joinContinued (some c) t := by
  have hmatch := continuation?_backslashes hc t n
  by_cases hodd : n % 2 = 1 ∧ c = '\n'
  · obtain ⟨k, rfl⟩ : ∃ k, n = k + 1 := ⟨n - 1, by omega⟩
    rw [if_pos hodd] at hmatch ⊢
    exact joinContinued_of_some hbefore hmatch
  · rw [if_neg hodd] at hmatch ⊢
    cases n with
    | zero => exact joinContinued_of_none hbefore hmatch
    | succ n =>
      have hrest : joinContinued before (backslashes (n + 1) ++ c :: t) =
          '\\' :: joinContinued (some '\\') (backslashes n ++ c :: t) :=
        joinContinued_of_none hbefore hmatch
      rw [hrest, joinContinued_inside]
      rfl

/-! ## Reading a line -/

/-- Nothing is continued in a text without backslashes or without newlines. -/
theorem joinContinued_eq_self {s : Text} (before : Option Char) (h : '\\' ∉ s ∨ '\n' ∉ s) :
    joinContinued before s = s := by
  induction s generalizing before with
  | nil => rw [joinContinued]
  | cons c s ih =>
    have hs : '\\' ∉ s ∨ '\n' ∉ s := by
      simp only [List.mem_cons, not_or] at h
      tauto
    have hnone : continuation? (c :: s) = none := by
      by_contra hsome
      obtain ⟨m, hm⟩ := Option.ne_none_iff_exists'.1 hsome
      rw [eq_of_continuation? hm] at h
      simp at h
    by_cases hbefore : before = some '\\'
    · rw [hbefore, joinContinued_escaped, ih _ hs]
    · rw [joinContinued_of_none hbefore hnone, ih _ hs]

/-- A line is read up to its newline, which goes with the last backslash if their number is odd. -/
theorem joinContinued_line {before : Option Char} (hbefore : before ≠ some '\\') {l : Text}
    (hl : '\n' ∉ l) (t : Text) :
    joinContinued before (l ++ '\n' :: t) =
      if trailingBackslashes l % 2 = 1 then l.dropLast ++ joinContinued (some '\n') t
      else l ++ '\n' :: joinContinued (some '\n') t := by
  -- on the runs of the line: the last one meets the newline, and all others are passed over
  induction hn : l.length using Nat.strongRecOn generalizing l before with
  | ind n ih =>
  obtain ⟨k, rfl⟩ | ⟨k, c, rest, hc, rfl⟩ := exists_backslashes l
  · rw [joinContinued_backslashes hbefore (by decide), trailingBackslashes_backslashes]
    simp only [and_true]
    have hlast : (backslashes k).dropLast = backslashes (k - 1) := List.dropLast_replicate ..
    rw [hlast]
  · have hnewline : c ≠ '\n' := fun h => hl (by simp [h])
    have hrest : '\n' ∉ rest := fun h => hl (by simp [h])
    have hshort : rest.length < n := by
      rw [← hn, List.length_append, List.length_cons]
      omega
    have hread : joinContinued before (backslashes k ++ c :: rest ++ '\n' :: t) =
        backslashes k ++ c :: joinContinued (some c) (rest ++ '\n' :: t) := by
      rw [List.append_assoc, List.cons_append, joinContinued_backslashes hbefore hc,
        if_neg fun h => hnewline h.2]
    have hbefore' : some c ≠ some '\\' := by simpa using hc
    have hagain := ih rest.length hshort hbefore' hrest rfl
    rw [hread, hagain, trailingBackslashes_append hc]
    by_cases hodd : trailingBackslashes rest % 2 = 1
    · have hne : rest ≠ [] := by
        rintro rfl
        exact absurd hodd (by decide)
      rw [if_pos hodd, if_pos hodd, List.dropLast_append_of_ne_nil (by simp),
        List.dropLast_cons_of_ne_nil hne]
      simp
    · rw [if_neg hodd, if_neg hodd]
      simp

/-! ## All lines -/

/-- Joining what is continued in lines that newlines stand between is joining the lines by the
number of backslashes at their ends. -/
theorem joinContinued_joinWith {ls : List Text} (hls : ∀ l ∈ ls, '\n' ∉ l) :
    joinContinued none (Text.joinWith ['\n'] ls) = joinLines ls := by
  -- a line is read alike at the start and after a newline
  suffices hall : ∀ before : Option Char, before ≠ some '\\' →
      joinContinued before (Text.joinWith ['\n'] ls) = joinLines ls from hall none (by simp)
  induction ls with
  | nil =>
    intro before _
    exact joinContinued_eq_self before (.inl (by simp [Text.joinWith]))
  | cons l ls ih =>
    intro before hbefore
    have hl : '\n' ∉ l := hls l (List.mem_cons_self ..)
    have hrest := ih fun m hm => hls m (List.mem_cons_of_mem l hm)
    cases ls with
    | nil => exact joinContinued_eq_self before (.inr hl)
    | cons m rest =>
      rw [Text.joinWith_cons_cons, List.append_assoc, List.singleton_append,
        joinContinued_line hbefore hl, hrest (some '\n') (by decide), joinLines]

/-- Two lines are continued, one of which is made of backslashes only, and a third one is not. -/
theorem joinContinued_joinWith_backslash_lines :
    let ls : List Text := [['a', '\\'], backslashes 3, ['b', '\\', '\\'], ['c']]
    (∀ l ∈ ls, '\n' ∉ l) ∧
      joinContinued none (Text.joinWith ['\n'] ls) =
        'a' :: backslashes 2 ++ 'b' :: backslashes 2 ++ ['\n', 'c'] := by
  intro ls
  have hls : ∀ l ∈ ls, '\n' ∉ l := by decide
  refine ⟨hls, ?_⟩
  rw [joinContinued_joinWith hls]
  decide

end Stencil.Template
