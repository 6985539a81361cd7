import Mathlib.Data.List.Basic
import Stencil.Proofs.Template.CloseSearch
import Stencil.Template.TopLevel

/-!
# The last colon of a block

The search for a character at the top level of an expression goes past the strings, comments and
brackets in front of it (`Passes`), and from there on it starts afresh. What stands after that
character does not matter for the way to it (`Passes.swap`). Main statement: `splitFormat_eq_iff`, a
block is split exactly at a colon to which the search comes and after which there is none at the top
level.
-/

namespace Stencil.Template

open Text

/-- The characters that open or close brackets. -/
def brackets : Text := ['(', '[', '\x7b', ')', ']', '\x7d']

/-- How many brackets are open after a character, if `depth` are before it. -/
def depthAfter (depth : Nat) (c : Char) : Nat :=
  if c = '(' || c = '[' || c = '\x7b' then depth + 1
  else if c = ')' || c = ']' || c = '\x7d' then depth - 1
  else depth

/-- A character that starts neither a string nor a comment. -/
structure Visible (literal : Bool) (comment : Text) (c : Char) : Prop where
  string : (!literal && isQuote c) = false
  comment : (!literal && decide (comment = [c])) = false

/-- A text starts with a string or a comment, and `rest` comes after it. -/
inductive Hides (literal : Bool) (comment : Text) : (s span rest : Text) → Prop
  | string {q : Char} {s span rest : Text} (hq : (!literal && isQuote q) = true)
      (h : quoted? q s = some (span, rest)) : Hides literal comment (q :: s) span rest
  | comment {c : Char} {s : Text} (hq : (!literal && isQuote c) = false)
      (hc : (!literal && decide (comment = [c])) = true) :
      Hides literal comment (c :: s) (c :: s.takeWhile (· ≠ '\n')) (s.dropWhile (· ≠ '\n'))

/-- The search goes over a text in front of `tail` and comes to `tail` at the top level, if it
starts with `depth` brackets open. -/
inductive Passes (literal : Bool) (comment tail : Text) : (depth : Nat) → Text → Prop
  | done : Passes literal comment tail 0 []
  | hidden {depth : Nat} {span s : Text}
      (h : Hides literal comment (span ++ (s ++ tail)) span (s ++ tail))
      (more : Passes literal comment tail depth s) : Passes literal comment tail depth (span ++ s)
  | char {depth : Nat} {c : Char} {s : Text} (h : Visible literal comment c)
      (more : Passes literal comment tail (depthAfter depth c) s) :
      Passes literal comment tail depth (c :: s)

/-! ## Strings and comments -/

section

variable {literal : Bool} {comment : Text}

namespace Hides

variable {s span rest : Text}

theorem append (h : Hides literal comment s span rest) : s = span ++ rest := by
  cases h with
  | string hq h => exact quoted?_append h
  | comment hq hc => rw [List.cons_append, List.takeWhile_append_dropWhile]

theorem length_lt (h : Hides literal comment s span rest) : rest.length < s.length := by
  cases h with
  | string hq h => exact length_lt_of_quoted? h
  | @comment c s =>
    exact Nat.lt_succ_of_le (List.dropWhile_suffix (l := s) (· ≠ '\n')).length_le

/-- A string or a comment stays one when the text from the second character after it on is
replaced. -/
theorem swap {d : Char} {r : Text} (h : Hides literal comment (span ++ d :: r) span (d :: r))
    (t : Text) : Hides literal comment (span ++ d :: t) span (d :: t) := by
  generalize hs : span ++ d :: r = s at h
  generalize hrest : d :: r = rest at h
  cases h with
  | @string q s span _ hq h =>
    subst hrest
    obtain ⟨w, rfl, hswap⟩ := quoted?_swap h t
    exact .string hq hswap
  | @comment c s hq hc =>
    obtain ⟨-, hs⟩ := List.cons.inj hs
    have htake := congrArg (List.takeWhile (· ≠ '\n')) hs
    have hdrop := congrArg (List.dropWhile (· ≠ '\n')) hs
    rw [← hrest] at hdrop
    obtain ⟨htake', hdrop'⟩ := takeWhile_newline_swap htake hdrop t
    have hhides : Hides literal comment (c :: (s.takeWhile (· ≠ '\n') ++ d :: t)) _ _ :=
      .comment hq hc
    rwa [htake', hdrop'] at hhides

end Hides

/-! ## Steps of the search -/

section

variable {target s : Text} {pos depth : Nat} {found : Option Nat} {c : Char}

/-- The search goes past a string or comment at once. -/
theorem Hides.lastTopLevelFrom_eq {span rest : Text} (h : Hides literal comment s span rest) :
    lastTopLevelFrom target literal comment pos depth found s =
      lastTopLevelFrom target literal comment (pos + span.length) depth found rest := by
  cases h with
  | string hq h =>
    rw [lastTopLevelFrom, if_pos hq]
    split
    · rename_i hspan
      exact absurd (hspan.symm.trans h) (by simp)
    · rename_i hspan
      obtain ⟨rfl, rfl⟩ := Prod.mk.inj (Option.some.inj (hspan.symm.trans h))
      rfl
  | comment hq hc =>
    rw [lastTopLevelFrom, if_neg (Bool.eq_false_iff.1 hq), if_pos hc, List.length_cons,
      Nat.add_comm (List.length _) 1, ← Nat.add_assoc]

/-- A character outside strings and comments is found if it is the one looked for, no bracket is
open, and it is no bracket itself. -/
theorem Visible.lastTopLevelFrom_eq (h : Visible literal comment c) :
    lastTopLevelFrom target literal comment pos depth found (c :: s) =
      lastTopLevelFrom target literal comment (pos + 1) (depthAfter depth c)
        (if target = [c] ∧ depth = 0 ∧ c ∉ brackets then some pos else found) s := by
  rw [lastTopLevelFrom, if_neg (Bool.eq_false_iff.1 h.string),
    if_neg (Bool.eq_false_iff.1 h.comment), depthAfter]
  split
  · rename_i hb
    have hmem : c ∈ brackets := by
      simp only [Bool.or_eq_true, decide_eq_true_eq] at hb
      obtain (rfl | rfl) | rfl := hb <;> decide
    rw [if_neg fun h => h.2.2 hmem]
  split
  · rename_i hb
    have hmem : c ∈ brackets := by
      simp only [Bool.or_eq_true, decide_eq_true_eq] at hb
      obtain (rfl | rfl) | rfl := hb <;> decide
    rw [if_neg fun h => h.2.2 hmem]
  · have hmem : c ∉ brackets := by simp_all [brackets]
    simp only [hmem, not_false_eq_true, and_true]

/-- At each character the search is stopped by a string that never ends, goes past a string or a
comment, or goes on to the next character. -/
theorem step_cases (literal : Bool) (comment : Text) (c : Char) (s : Text) :
    (∀ target pos depth found,
      lastTopLevelFrom target literal comment pos depth found (c :: s) = found) ∨
      (∃ span rest, Hides literal comment (c :: s) span rest) ∨ Visible literal comment c := by
  cases hq : !literal && isQuote c with
  | true =>
    cases hspan : quoted? c s with
    | some p => exact .inr (.inl ⟨_, _, .string hq hspan⟩)
    | none =>
      refine .inl fun target pos depth found => ?_
      rw [lastTopLevelFrom, if_pos hq]
      split
      · rfl
      · rename_i h
        exact absurd (h.symm.trans hspan) (by simp)
  | false =>
    cases hc : !literal && decide (comment = [c]) with
    | true => exact .inr (.inl ⟨_, _, .comment hq hc⟩)
    | false => exact .inr (.inr ⟨hq, hc⟩)

theorem depthAfter_of_not_mem (h : c ∉ brackets) : depthAfter depth c = depth := by
  simp only [brackets, List.mem_cons, List.not_mem_nil, or_false, not_or] at h
  simp [depthAfter, h]

/-- The search finds the same wherever it starts to count, and what has been found before counts
only if it finds nothing. -/
theorem lastTopLevelFrom_eq_or (pos depth : Nat) (found : Option Nat) (s : Text) :
    lastTopLevelFrom target literal comment pos depth found s =
      ((lastTopLevelFrom target literal comment 0 depth none s).map (pos + ·)).or found := by
  induction hn : s.length using Nat.strongRecOn generalizing s pos depth found with
  | _ n ih =>
  cases s with
  | nil => simp [lastTopLevelFrom]
  | cons c s =>
    -- after a first step both sides are the search from the start of what is left
    have hstep (skip depth : Nat) {now own : Option Nat} {rest : Text}
        (hlt : rest.length < (c :: s).length) (hown : now = (own.map (pos + ·)).or found) :
        lastTopLevelFrom target literal comment (pos + skip) depth now rest =
          ((lastTopLevelFrom target literal comment (0 + skip) depth own rest).map
            (pos + ·)).or found := by
      rw [ih _ (hn ▸ hlt) (pos + skip) _ _ rest rfl, ih _ (hn ▸ hlt) (0 + skip) _ _ rest rfl]
      cases lastTopLevelFrom target literal comment 0 depth none rest with
      | none => simpa using hown
      | some k => simp [Nat.add_assoc]
    obtain hstop | ⟨span, rest, hhides⟩ | hvisible := step_cases literal comment c s
    · rw [hstop, hstop]
      rfl
    · rw [hhides.lastTopLevelFrom_eq, hhides.lastTopLevelFrom_eq]
      exact hstep _ _ hhides.length_lt rfl
    · rw [hvisible.lastTopLevelFrom_eq, hvisible.lastTopLevelFrom_eq]
      refine hstep 1 _ (Nat.lt_succ_self _) ?_
      split <;> rfl

/-- Where nothing is left to be found, the search gives what has been found before. -/
theorem lastTopLevelFrom_of_none (h : lastTopLevel? target literal comment s = none) :
    lastTopLevelFrom target literal comment pos 0 found s = found := by
  rw [lastTopLevel?] at h
  rw [lastTopLevelFrom_eq_or, h]
  rfl

end

/-! ## The way to a character -/

section

variable {tail s : Text} {depth : Nat} {t : Char}

/-- The search comes to what stands after the text that it goes over. -/
theorem Passes.exists_found (h : Passes literal comment tail depth s) (target : Text) (pos : Nat)
    (found : Option Nat) :
    ∃ found', lastTopLevelFrom target literal comment pos depth found (s ++ tail) =
      lastTopLevelFrom target literal comment (pos + s.length) 0 found' tail := by
  induction h generalizing pos found with
  | done => exact ⟨found, rfl⟩
  | @hidden depth span s h _ ih =>
    obtain ⟨found', hfound⟩ := ih (pos + span.length) found
    refine ⟨found', ?_⟩
    rw [List.append_assoc, h.lastTopLevelFrom_eq, hfound, List.length_append, Nat.add_assoc]
  | @char depth c s h _ ih =>
    obtain ⟨found', hfound⟩ := ih (pos + 1)
      (if target = [c] ∧ depth = 0 ∧ c ∉ brackets then some pos else found)
    refine ⟨found', ?_⟩
    rw [List.cons_append, h.lastTopLevelFrom_eq, hfound, List.length_cons, Nat.add_right_comm,
      Nat.add_assoc]

/-- What follows the character that the search comes to does not matter for the way to it. -/
theorem Passes.swap {after : Text} (h : Passes literal comment (t :: after) depth s)
    (others : Text) : Passes literal comment (t :: others) depth s := by
  induction h with
  | done => exact .done
  | @hidden depth span s h _ ih =>
    refine .hidden ?_ ih
    cases s with
    | nil => exact h.swap others
    | cons d s => exact h.swap (s ++ t :: others)
  | char h _ ih => exact .char h ih

/-- The search comes to what it finds, and there is nothing that it would find after it. -/
theorem exists_passes {k : Nat} (h : lastTopLevelFrom [t] literal comment 0 depth none s = some k) :
    ∃ before after, s = before ++ t :: after ∧ before.length = k ∧
      Passes literal comment (t :: after) depth before ∧
      lastTopLevel? [t] literal comment after = none := by
  induction hn : s.length using Nat.strongRecOn generalizing s depth k with
  | _ n ih =>
  cases s with
  | nil => exact absurd h (by simp [lastTopLevelFrom])
  | cons c s =>
    obtain hstop | ⟨span, rest, hhides⟩ | hvisible := step_cases literal comment c s
    · rw [hstop] at h
      exact absurd h (by simp)
    · rw [hhides.lastTopLevelFrom_eq, lastTopLevelFrom_eq_or, Option.or_none] at h
      obtain ⟨j, hj, rfl⟩ := Option.map_eq_some_iff.1 h
      obtain ⟨before, after, rfl, rfl, hbefore, hafter⟩ := ih _ (hn ▸ hhides.length_lt) hj rfl
      have happ := hhides.append
      refine ⟨span ++ before, after, by rw [happ, List.append_assoc], by simp, ?_, hafter⟩
      exact .hidden (happ ▸ hhides) hbefore
    · rw [hvisible.lastTopLevelFrom_eq, lastTopLevelFrom_eq_or] at h
      cases hrest : lastTopLevelFrom [t] literal comment 0 (depthAfter depth c) none s with
      | some j =>
        rw [hrest] at h
        obtain rfl : 0 + 1 + j = k := Option.some.inj h
        obtain ⟨before, after, rfl, rfl, hbefore, hafter⟩ :=
          ih _ (hn ▸ Nat.lt_succ_self _) hrest rfl
        exact ⟨c :: before, after, rfl, by simp; omega, .char hvisible hbefore, hafter⟩
      | none =>
        -- nothing is found further on, so it is this character that is found
        rw [hrest] at h
        split at h
        · rename_i hat
          obtain ⟨rfl, rfl, hbracket⟩ : t = c ∧ depth = 0 ∧ c ∉ brackets := by simpa using hat
          obtain rfl : 0 = k := Option.some.inj h
          rw [depthAfter_of_not_mem hbracket] at hrest
          exact ⟨[], s, rfl, rfl, .done, hrest⟩
        · exact absurd h (by simp)

/-- A character is found last at the top level exactly where the search comes to it and there is
none after it. -/
theorem lastTopLevel?_append_eq_some_iff (ht : Visible literal comment t) (hb : t ∉ brackets)
    {before after : Text} :
    lastTopLevel? [t] literal comment (before ++ t :: after) = some before.length ↔
      Passes literal comment (t :: after) 0 before ∧
        lastTopLevel? [t] literal comment after = none := by
  constructor
  · intro h
    obtain ⟨before', after', happ, hlen, hpasses, hnone⟩ := exists_passes h
    obtain ⟨rfl, htail⟩ := List.append_inj happ hlen.symm
    obtain ⟨-, rfl⟩ := List.cons.inj htail
    exact ⟨hpasses, hnone⟩
  · rintro ⟨hpasses, hnone⟩
    obtain ⟨found, hfound⟩ := hpasses.exists_found [t] 0 none
    rw [lastTopLevel?, hfound, ht.lastTopLevelFrom_eq, if_pos ⟨rfl, rfl, hb⟩,
      depthAfter_of_not_mem hb, lastTopLevelFrom_of_none hnone, Nat.zero_add]

end

/-! ## Formats -/

/-- The search comes to a character whatever follows it. -/
theorem lastTopLevel?_append_singleton {t : Char} {before : Text} (after : Text)
    (ht : Visible literal comment t) (hb : t ∉ brackets) :
    lastTopLevel? [t] literal comment (before ++ [t]) = some before.length ↔
      Passes literal comment (t :: after) 0 before := by
  have hnil : lastTopLevel? [t] literal comment [] = none := by
    simp [lastTopLevel?, lastTopLevelFrom]
  rw [lastTopLevel?_append_eq_some_iff ht hb, and_iff_left hnil]
  exact ⟨fun h => h.swap after, fun h => h.swap []⟩

end

theorem visible_colon : Visible false ['#'] ':' := ⟨rfl, rfl⟩

theorem splitFormat_of_some {text : Text} {colon : Nat}
    (h : lastTopLevel? [':'] false ['#'] text = some colon) :
    splitFormat text = (text.take colon, some (strip (text.drop (colon + 1)))) := by
  rw [splitFormat, h]

/-- A block without a format is all expression, as it has no colon at the top level. A block with a
format is an expression, a colon and the format with blanks around it, where the colon is the last
one at the top level of the expression with the colon after it, and there is none at the top level
of what follows; and every text of that form is split so. -/
theorem splitFormat_eq_iff (text expression : Text) :
    (splitFormat text = (expression, none) ↔
      expression = text ∧ lastTopLevel? [':'] false ['#'] text = none) ∧
    ∀ format, splitFormat text = (expression, some format) ↔
      ∃ rest, text = expression ++ ':' :: rest ∧ format = strip rest ∧
        lastTopLevel? [':'] false ['#'] (expression ++ [':']) = some expression.length ∧
        lastTopLevel? [':'] false ['#'] rest = none := by
  have hb : ':' ∉ brackets := by decide
  cases hlast : lastTopLevel? [':'] false ['#'] text with
  | none =>
    have hsplit : splitFormat text = (text, none) := by rw [splitFormat, hlast]
    rw [hsplit]
    refine ⟨by simp [eq_comm], fun format => iff_of_false (by simp) ?_⟩
    rintro ⟨rest, rfl, -, hway, hnone⟩
    have hpasses := (lastTopLevel?_append_singleton rest visible_colon hb).1 hway
    have := (lastTopLevel?_append_eq_some_iff visible_colon hb).2 ⟨hpasses, hnone⟩
    exact absurd (hlast.symm.trans this) (by simp)
  | some colon =>
    obtain ⟨before, after, rfl, rfl, hpasses, hnone⟩ := exists_passes hlast
    have hsplit : splitFormat (before ++ ':' :: after) = (before, some (strip after)) := by
      rw [splitFormat_of_some hlast, List.take_left, ← List.drop_drop, List.drop_left]
      rfl
    rw [hsplit]
    refine ⟨by simp, fun format => ⟨?_, ?_⟩⟩
    · rintro ⟨⟩
      exact ⟨after, rfl, rfl, (lastTopLevel?_append_singleton after visible_colon hb).2 hpasses,
        hnone⟩
    · rintro ⟨rest, happ, rfl, hway, hrest⟩
      -- the colon of this form is the one that is found
      have hpasses' := (lastTopLevel?_append_singleton rest visible_colon hb).1 hway
      have hlast' := (lastTopLevel?_append_eq_some_iff visible_colon hb).2 ⟨hpasses', hrest⟩
      rw [← happ] at hlast'
      obtain ⟨rfl, htail⟩ := List.append_inj happ (Option.some.inj (hlast.symm.trans hlast'))
      obtain ⟨-, rfl⟩ := List.cons.inj htail
      rfl

/-- A colon in a slice, and one in a string that never ends. -/
example : splitFormat "a[1:2]: '3:".toList = ("a[1:2]".toList, some "'3:".toList) := by
  decide +kernel

end Stencil.Template
