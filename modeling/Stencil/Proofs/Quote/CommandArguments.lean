import Mathlib.Data.List.Infix
import Stencil.Proofs.Text.Lines
import Stencil.Quote.Shell

/-!
# Quoted arguments of the command prompt

How a program under Windows takes its command line apart: blanks end an argument unless they stand
between double quotes, and backslashes are special only in front of a double quote. There each pair
of them stands for one, and one that is left over makes the quote an ordinary character. The reader
goes over the line character by character and lets backslashes wait for what follows them
(`ArgumentReader.step`).

A text is read back as it was if no backslash stands in front of a double quote in it or at its end
(`run_escaped`). Any other text is not: the reader drops some of those backslashes, which shows in
the weight of what it has read (`weight_run_escaped_lt`). Main statement: `arguments_quote_cmd`.
-/

namespace Stencil.Shell

/-! ## Reading arguments -/

/-- A reader of a command line: whether it stands between double quotes, how many backslashes wait
for what follows them, what it has read of the current argument before those, if it is inside one,
and the arguments before that one. -/
structure ArgumentReader where
  quoted : Bool
  slashes : Nat
  current : Option Text
  done : List Text
  deriving DecidableEq, Repr

namespace ArgumentReader

/-- A reader that has read nothing after the given arguments. -/
def start (done : List Text) : ArgumentReader := ⟨false, 0, none, done⟩

/-- The current argument with `n` backslashes after what has been read of it. -/
def spelled (r : ArgumentReader) (n : Nat) : Text :=
  r.current.getD [] ++ List.replicate n '\\'

/-- A reader that goes on with the given argument and has no backslashes waiting. -/
def goOn (r : ArgumentReader) (word : Text) : ArgumentReader :=
  { r with slashes := 0, current := some word }

/-- The arguments of a line that ends here. Backslashes that wait are ordinary ones, and the end of
the line ends a quoted part as well. -/
def finish (r : ArgumentReader) : List Text :=
  match r.current with
  | none => r.done
  | some _ => r.done ++ [r.spelled r.slashes]

/-- The reader after one more character. -/
def step (r : ArgumentReader) (c : Char) : ArgumentReader :=
  if c = '\\' then { r with slashes := r.slashes + 1, current := some (r.spelled 0) }
  else if c = '"' then
    if r.slashes % 2 = 0 then { r.goOn (r.spelled (r.slashes / 2)) with quoted := !r.quoted }
    else r.goOn (r.spelled (r.slashes / 2) ++ ['"'])
  else if r.quoted = false ∧ (c = ' ' ∨ c = '\t') then start r.finish
  else r.goOn (r.spelled r.slashes ++ [c])

/-- The reader after a text. -/
def run (r : ArgumentReader) (s : Text) : ArgumentReader := s.foldl step r

@[simp] theorem run_nil (r : ArgumentReader) : r.run [] = r := rfl

@[simp] theorem run_cons (r : ArgumentReader) (c : Char) (s : Text) :
    r.run (c :: s) = (r.step c).run s := rfl

@[simp] theorem run_append (r : ArgumentReader) (s t : Text) :
    r.run (s ++ t) = (r.run s).run t :=
  List.foldl_append

end ArgumentReader

/-- The arguments on a command line. -/
def arguments (line : Text) : List Text := ((ArgumentReader.start []).run line).finish

open ArgumentReader

/-! ## Characters -/

theorem step_slash (r : ArgumentReader) :
    r.step '\\' = { r with slashes := r.slashes + 1, current := some (r.spelled 0) } := rfl

/-- A character that is neither a backslash nor a quote goes on with a quoted argument. -/
theorem step_quoted_char {c : Char} (hslash : c ≠ '\\') (hquote : c ≠ '"') (n : Nat) (word : Text)
    (done : List Text) :
    (ArgumentReader.mk true n (some word) done).step c =
      ⟨true, 0, some (word ++ List.replicate n '\\' ++ [c]), done⟩ := by
  rw [step, if_neg hslash, if_neg hquote, if_neg (by simp)]
  rfl

/-! ## Escaped texts -/

/-- A text with a backslash in front of each double quote. -/
def escaped (s : Text) : Text := Text.replaceChar '"' ['\\', '"'] s

theorem quote_cmd (s : Text) : cmd.quote s = '"' :: (escaped s ++ ['"']) := rfl

theorem escaped_append (s t : Text) : escaped (s ++ t) = escaped s ++ escaped t :=
  Text.replaceChar_append '"' _ s t

theorem escaped_singleton {c : Char} (h : c ≠ '"') : escaped [c] = [c] :=
  Text.replaceChar_eq_self _ (by simpa using h.symm)

theorem escaped_quote : escaped ['"'] = ['\\', '"'] := rfl

/-- A reader behind the quote that opens an argument. -/
def opened (done : List Text) : ArgumentReader := ⟨true, 0, some [], done⟩

theorem step_start_quote (done : List Text) : (start done).step '"' = opened done := by
  simp [step, start, opened, goOn, spelled]

/-- Without backslashes in front of double quotes, an escaped text is read as it was, with the
backslashes at its end still waiting. -/
theorem run_escaped {s : Text} (h : ¬ ['\\', '"'] <:+: s) (done : List Text) :
    ∃ word n, (opened done).run (escaped s) = ⟨true, n, some word, done⟩ ∧
      s = word ++ List.replicate n '\\' := by
  induction s using List.reverseRecOn with
  | nil => exact ⟨[], 0, rfl, rfl⟩
  | append_singleton s c ih =>
    have hs : ¬ ['\\', '"'] <:+: s := fun hin => h (hin.trans (List.infix_append' [] s [c]))
    obtain ⟨word, n, hrun, hword⟩ := ih hs
    rw [escaped_append, run_append, hrun]
    by_cases hslash : c = '\\'
    · subst hslash
      refine ⟨word, n + 1, ?_, ?_⟩
      · rw [escaped_singleton (by decide), run_cons, run_nil, step_slash, spelled]
        simp
      · rw [hword, List.append_assoc, ← List.replicate_succ']
    by_cases hquote : c = '"'
    · -- no backslash waits, or it would stand in front of this quote
      subst hquote
      cases n with
      | zero =>
        refine ⟨word ++ ['"'], 0, ?_, ?_⟩
        · rw [escaped_quote, run_cons, run_cons, run_nil, step_slash]
          simp [step, spelled, goOn]
        · rw [hword]
          simp
      | succ n =>
        refine absurd ?_ h
        rw [hword, List.replicate_succ', ← List.append_assoc, List.append_assoc _ ['\\'] ['"']]
        exact List.suffix_append _ _ |>.isInfix
    · refine ⟨word ++ List.replicate n '\\' ++ [c], 0, ?_, ?_⟩
      · rw [escaped_singleton hquote, run_cons, run_nil, step_quoted_char hslash hquote]
      · rw [← hword]
        simp

/-- Without a backslash at its end either, a quoted text is read as one argument, and the reader is
behind the quote that closes it. -/
theorem run_quote_cmd {s : Text} (h : ¬ ['\\', '"'] <:+: s) (hend : ¬ ['\\'] <:+ s)
    (done : List Text) :
    (start done).run (cmd.quote s) = ⟨false, 0, some s, done⟩ := by
  obtain ⟨word, n, hrun, hword⟩ := run_escaped h done
  cases n with
  | zero =>
    obtain rfl : s = word := by simpa using hword
    rw [quote_cmd, run_cons, step_start_quote, run_append, hrun, run_cons, run_nil]
    simp [step, spelled, goOn]
  | succ n =>
    refine absurd ?_ hend
    rw [hword, List.replicate_succ', ← List.append_assoc]
    exact List.suffix_append _ _

/-! ## Weights -/

/-- What a text weighs: each backslash two, and each double quote one. -/
def weight (s : Text) : Nat := 2 * s.count '\\' + s.count '"'

/-- What the arguments that a reader has read weigh, with the backslashes that wait. -/
def ArgumentReader.weight (r : ArgumentReader) : Nat :=
  Shell.weight r.done.flatten + Shell.weight (r.spelled r.slashes)

theorem weight_append (s t : Text) : weight (s ++ t) = weight s + weight t := by
  simp only [weight, List.count_append]
  omega

theorem weight_replicate (n : Nat) : weight (List.replicate n '\\') = 2 * n := by
  simp [weight, List.count_replicate]

theorem weight_singleton {c : Char} (hslash : c ≠ '\\') (hquote : c ≠ '"') : weight [c] = 0 := by
  simp [weight, hslash, hquote]

theorem weight_spelled (r : ArgumentReader) (n : Nat) :
    weight (r.spelled n) = weight (r.current.getD []) + 2 * n := by
  rw [spelled, weight_append, weight_replicate]

/-- The arguments of a line weigh no more than its reader says. -/
theorem weight_finish_le (r : ArgumentReader) : weight r.finish.flatten ≤ r.weight := by
  unfold finish ArgumentReader.weight
  cases r.current with
  | none => exact Nat.le_add_right _ _
  | some word =>
    rw [List.flatten_append, List.flatten_singleton, weight_append]

theorem weight_step_slash (r : ArgumentReader) : (r.step '\\').weight = r.weight + 2 := by
  simp only [ArgumentReader.weight, step_slash, weight_spelled, Option.getD_some]
  omega

/-- At a double quote the reader loses as much as backslashes wait in front of it. -/
theorem weight_step_quote (r : ArgumentReader) : (r.step '"').weight + r.slashes = r.weight := by
  have hquote : weight ['"'] = 1 := rfl
  rw [step, if_neg (by decide), if_pos rfl]
  split
  · simp only [ArgumentReader.weight, goOn, weight_spelled, Option.getD_some]
    omega
  · simp only [ArgumentReader.weight, goOn, weight_spelled, weight_append, Option.getD_some, hquote]
    omega

/-- Other characters weigh nothing, and what has been read stays or is put down as an argument. -/
theorem weight_step_char_le {c : Char} (hslash : c ≠ '\\') (hquote : c ≠ '"')
    (r : ArgumentReader) : (r.step c).weight ≤ r.weight := by
  have hc := weight_singleton hslash hquote
  rw [step, if_neg hslash, if_neg hquote]
  split
  · exact weight_finish_le r
  · simp only [ArgumentReader.weight, goOn, weight_spelled, weight_append, Option.getD_some, hc]
    omega

/-- A double quote and the backslash in front of it weigh one more than what is lost at it. -/
theorem weight_run_quote (r : ArgumentReader) :
    (r.run (escaped ['"'])).weight + r.slashes = r.weight + weight ['"'] := by
  have hslash := weight_step_slash r
  have hstep := weight_step_quote (r.step '\\')
  have hslashes : (r.step '\\').slashes = r.slashes + 1 := rfl
  have hquote : weight ['"'] = 1 := rfl
  rw [escaped_quote, run_cons, run_cons, run_nil]
  omega

/-- What is read of an escaped text weighs no more than the text. -/
theorem weight_run_escaped_le (r : ArgumentReader) (s : Text) :
    (r.run (escaped s)).weight ≤ r.weight + weight s := by
  induction s generalizing r with
  | nil => exact Nat.le_add_right _ _
  | cons c s ih =>
    have hchar : (r.run (escaped [c])).weight ≤ r.weight + weight [c] := by
      by_cases hquote : c = '"'
      · subst hquote
        have := weight_run_quote r
        omega
      rw [escaped_singleton hquote, run_cons, run_nil]
      by_cases hslash : c = '\\'
      · subst hslash
        exact (weight_step_slash r).le
      · exact Nat.le_add_right_of_le (weight_step_char_le hslash hquote r)
    have hrest := ih (r.run (escaped [c]))
    rw [← List.singleton_append, escaped_append, run_append, weight_append]
    omega

/-- After a text that ends in a backslash, a backslash waits. -/
theorem slashes_run_escaped_pos (r : ArgumentReader) (s : Text) :
    0 < (r.run (escaped (s ++ ['\\']))).slashes := by
  rw [escaped_append, run_append, escaped_singleton (by decide), run_cons, run_nil, step_slash]
  exact Nat.succ_pos _

/-- A backslash in front of a double quote is lost on the way. -/
theorem weight_run_escaped_lt {s : Text} (h : ['\\', '"'] <:+: s) (r : ArgumentReader) :
    (r.run (escaped s)).weight < r.weight + weight s := by
  obtain ⟨before, after, rfl⟩ := h
  have hwaits := slashes_run_escaped_pos r before
  have hbefore := weight_run_escaped_le r (before ++ ['\\'])
  have hsplit : before ++ ['\\', '"'] ++ after = before ++ ['\\'] ++ ['"'] ++ after := by simp
  rw [hsplit]
  generalize before ++ ['\\'] = front at hwaits hbefore ⊢
  have hquote := weight_run_quote (r.run (escaped front))
  have hafter := weight_run_escaped_le ((r.run (escaped front)).run (escaped ['"'])) after
  rw [escaped_append, escaped_append, run_append, run_append, weight_append, weight_append]
  omega

/-! ## Quoted arguments -/

/-- A text with a backslash in front of a double quote or at its end loses weight when its quoted
form is read. -/
theorem weight_run_quote_cmd_lt {s : Text} (h : ['\\', '"'] <:+: s ∨ ['\\'] <:+ s) :
    ((start []).run (cmd.quote s)).weight < weight s := by
  have hempty : (opened []).weight = 0 := rfl
  have hclose := weight_step_quote ((opened []).run (escaped s))
  rw [quote_cmd, run_cons, step_start_quote, run_append, run_cons, run_nil]
  obtain h | ⟨t, rfl⟩ := h
  · have hlost := weight_run_escaped_lt h (opened [])
    omega
  · -- the backslashes at the end wait when the closing quote comes
    have hkept := weight_run_escaped_le (opened []) (t ++ ['\\'])
    have hwaits := slashes_run_escaped_pos (opened []) t
    omega

/-- Arguments that have been read before stay in front. -/
theorem finish_run_start (done : List Text) (s : Text) :
    ((start done).run s).finish = done ++ arguments s := by
  have hstep (r : ArgumentReader) (c : Char) :
      ({ r with done := done ++ r.done } : ArgumentReader).step c =
        { r.step c with done := done ++ (r.step c).done } := by
    have hfinish : ({ r with done := done ++ r.done } : ArgumentReader).finish =
        done ++ r.finish := by
      cases hcurrent : r.current <;> simp [finish, spelled, hcurrent]
    unfold step
    rw [hfinish]
    simp only [spelled, goOn, start]
    split_ifs <;> rfl
  have hrun (s : Text) (r : ArgumentReader) :
      ({ r with done := done ++ r.done } : ArgumentReader).run s =
        { r.run s with done := done ++ (r.run s).done } := by
    induction s generalizing r with
    | nil => rfl
    | cons c s ih => rw [run_cons, run_cons, hstep, ih]
  have hstart : start done = { start [] with done := done ++ (start []).done } := by simp [start]
  rw [hstart, hrun, arguments, finish, finish]
  cases ((start []).run s).current <;> simp [spelled]

/-- Quoted for the command prompt, a text is read back as the one argument that it is if and only if
no backslash stands in front of a double quote in it or at its end. Then the arguments that follow
it on the line are read as they are alone. -/
theorem arguments_quote_cmd (s : Text) :
    (arguments (cmd.quote s) = [s] ↔ ¬ ['\\', '"'] <:+: s ∧ ¬ ['\\'] <:+ s) ∧
      (¬ ['\\', '"'] <:+: s → ¬ ['\\'] <:+ s →
        ∀ rest, arguments (cmd.quote s ++ ' ' :: rest) = s :: arguments rest) := by
  refine ⟨⟨fun hread => ?_, fun h => ?_⟩, fun h hend rest => ?_⟩
  · rw [← not_or]
    intro hslash
    have hlost := weight_run_quote_cmd_lt hslash
    have hfinish := weight_finish_le ((start []).run (cmd.quote s))
    have hread : ((start []).run (cmd.quote s)).finish = [s] := hread
    rw [hread, List.flatten_singleton] at hfinish
    omega
  · rw [arguments, run_quote_cmd h.1 h.2]
    simp [finish, spelled]
  · have hspace : (ArgumentReader.mk false 0 (some s) []).step ' ' = start [s] := by
      simp [step, finish, spelled]
    rw [arguments, run_append, run_quote_cmd h hend, run_cons, hspace, finish_run_start]
    rfl

/-- Quotes, blanks and backslashes in front of other characters, with another argument after
them. -/
theorem arguments_quote_cmd_path :
    let s := "say \"hi\" to C:\\\\users\\me now".toList
    ¬ ['\\', '"'] <:+: s ∧ ¬ ['\\'] <:+ s ∧ arguments (cmd.quote s) = [s] ∧
      arguments (cmd.quote s ++ " next".toList) = [s, "next".toList] := by
  intro s
  have h : ¬ ['\\', '"'] <:+: s := by decide
  have hend : ¬ ['\\'] <:+ s := by decide
  exact ⟨h, hend, (arguments_quote_cmd s).1.2 ⟨h, hend⟩,
    (arguments_quote_cmd s).2 h hend "next".toList⟩

/-- A backslash at the end takes the closing quote with it. -/
theorem arguments_quote_cmd_final_backslash :
    cmd.quote "dir\\".toList = "\"dir\\\"".toList ∧
      arguments (cmd.quote "dir\\".toList) = ["dir\"".toList] ∧
      arguments (cmd.quote "dir\\".toList) ≠ ["dir\\".toList] := by
  decide

end Stencil.Shell
