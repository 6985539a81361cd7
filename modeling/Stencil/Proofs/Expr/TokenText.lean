import Mathlib.Data.List.TakeWhile
import Stencil.Expr.Token
import Stencil.Proofs.Template.CloseSearch

/-!
# What a token is read from

The text of a token is a run of plain characters, which start no quote, comment or line and are no
brackets, with a quoted span after it if the token is a string (`TokenText`). Main statement:
`tokenText_of_token?`. Most of the work is in numerals, each part of which is a plain start of what
is left of the text (`PlainStart`).
-/

namespace Stencil.Expr

open Template Text

/-! ## Plain characters -/

/-- The characters that start a quoted span, a comment or a line, or that are curly brackets. -/
def marks : Text := ['\'', '"', '`', '#', '\x7b', '\x7d', '\n']

/-- The marks and the other brackets, none of which a token has outside a quoted span. -/
def tokenMarks : Text := marks ++ ['(', ')', '[', ']']

/-- A text without any of these. -/
def Plain (w : Text) : Prop := ∀ c ∈ w, c ∉ tokenMarks

@[simp] theorem plain_nil : Plain [] := by simp [Plain]

theorem plain_cons {c : Char} {w : Text} : Plain (c :: w) ↔ c ∉ tokenMarks ∧ Plain w := by
  simp [Plain]

theorem plain_append {v w : Text} : Plain (v ++ w) ↔ Plain v ∧ Plain w := by
  simp only [Plain, List.mem_append]
  constructor
  · intro h
    exact ⟨fun c hc => h c (.inl hc), fun c hc => h c (.inr hc)⟩
  · rintro ⟨hv, hw⟩ c (hc | hc)
    · exact hv c hc
    · exact hw c hc

/-- A kind of character to which no mark belongs has plain members only. -/
theorem not_mem_marks {p : Char → Bool} (hp : tokenMarks.all (fun c => !p c) = true) {c : Char}
    (hc : p c = true) : c ∉ tokenMarks := by
  intro hm
  have h := List.all_eq_true.1 hp c hm
  rw [hc] at h
  exact absurd h (by simp)

/-- A plain text that another one starts with. -/
def PlainStart (w s : Text) : Prop := w <+: s ∧ Plain w

theorem plainStart_nil (s : Text) : PlainStart [] s := ⟨List.nil_prefix, plain_nil⟩

theorem PlainStart.cons {c : Char} {w s : Text} (hc : c ∉ tokenMarks) (h : PlainStart w s) :
    PlainStart (c :: w) (c :: s) :=
  ⟨(List.prefix_cons_inj c).2 h.1, plain_cons.2 ⟨hc, h.2⟩⟩

/-- A start of a text and a start of what is left make up a start of the text. -/
theorem PlainStart.append {w v s : Text} (hw : PlainStart w s)
    (hv : PlainStart v (s.drop w.length)) : PlainStart (w ++ v) s := by
  obtain ⟨⟨t, rfl⟩, hplain⟩ := hw
  rw [List.drop_left] at hv
  exact ⟨(List.prefix_append_right_inj w).2 hv.1, plain_append.2 ⟨hplain, hv.2⟩⟩

/-! ## Numerals -/

theorem not_mem_marks_of_isBaseDigit {base : Nat} {c : Char} (h : isBaseDigit base c = true) :
    c ∉ tokenMarks := by
  refine not_mem_marks ?_ h
  simp [tokenMarks, marks, isBaseDigit, baseDigit?]

theorem digitRun_plainStart (base : Nat) (s : Text) : PlainStart (digitRun base s) s := by
  have hbar : '_' ∉ tokenMarks := by decide
  fun_induction digitRun base s with
  | case1 => exact plainStart_nil []
  | case2 c hc => exact (plainStart_nil []).cons (not_mem_marks_of_isBaseDigit hc)
  | case3 => exact plainStart_nil _
  | case4 c hc e s' he ih => exact (ih.cons hbar).cons (not_mem_marks_of_isBaseDigit hc)
  | case5 c hc => exact (plainStart_nil _).cons (not_mem_marks_of_isBaseDigit hc)
  | case6 c hc => exact (plainStart_nil _).cons (not_mem_marks_of_isBaseDigit hc)
  | case7 c d s hc _ ih => exact ih.cons (not_mem_marks_of_isBaseDigit hc)
  | case8 => exact plainStart_nil _

theorem fractionRun_plainStart (s : Text) : PlainStart (fractionRun s) s := by
  unfold fractionRun
  split
  · exact (digitRun_plainStart 10 _).cons (by decide)
  · exact plainStart_nil s

theorem exponentRun_plainStart (s : Text) : PlainStart (exponentRun s) s := by
  cases s with
  | nil => exact plainStart_nil []
  | cons mark s =>
    by_cases hmark : mark = 'e' ∨ mark = 'E'
    · have hm : mark ∉ tokenMarks := by
        obtain rfl | rfl := hmark <;> decide
      cases s with
      | nil => simpa [exponentRun] using plainStart_nil [mark]
      | cons c rest =>
        by_cases hsign : c = '+' ∨ c = '-'
        · have hc : c ∉ tokenMarks := by
            obtain rfl | rfl := hsign <;> decide
          have hdigits := ((digitRun_plainStart 10 rest).cons hc).cons hm
          rw [exponentRun, if_pos hmark]
          simp only [if_pos hsign]
          split
          · exact plainStart_nil _
          · exact hdigits
        · have hdigits := (digitRun_plainStart 10 (c :: rest)).cons hm
          rw [exponentRun, if_pos hmark]
          simp only [if_neg hsign]
          split
          · exact plainStart_nil _
          · exact hdigits
    · rw [exponentRun.eq_def]
      simp only [if_neg hmark]
      exact plainStart_nil _

theorem imaginaryRun_plainStart (s : Text) : PlainStart (imaginaryRun s) s := by
  unfold imaginaryRun
  split
  · rename_i c s
    split
    · rename_i hc
      refine (plainStart_nil s).cons ?_
      obtain rfl | rfl := hc <;> decide
    · exact plainStart_nil _
  · exact plainStart_nil _

theorem decimalRun_plainStart (s : Text) : PlainStart (decimalRun s) s := by
  have hwhole := digitRun_plainStart 10 s
  have hfraction := hwhole.append (fractionRun_plainStart _)
  have hnumber := hfraction.append (exponentRun_plainStart _)
  rw [List.length_append] at hnumber
  exact hnumber.append (imaginaryRun_plainStart _)

theorem numeralRun_plainStart (s : Text) : PlainStart (numeralRun s) s := by
  unfold numeralRun
  split
  · rename_i mark s
    split
    · rename_i base hbase
      have hmark : mark ∉ tokenMarks := by
        refine not_mem_marks (p := fun c => (baseOf? c).isSome) (by decide) ?_
        simp [hbase]
      have hzero : '0' ∉ tokenMarks := by decide
      split
      · exact (((digitRun_plainStart base _).cons (by decide)).cons hmark).cons hzero
      · exact ((digitRun_plainStart base _).cons hmark).cons hzero
    · exact decimalRun_plainStart _
  · exact decimalRun_plainStart _

/-! ## Words and symbols -/

theorem not_mem_marks_of_isWordChar {c : Char} (h : isWordChar c = true) : c ∉ tokenMarks :=
  not_mem_marks (by decide) h

theorem takeWhile_isWordChar_plain (s : Text) : Plain (s.takeWhile isWordChar) :=
  fun _ hc => not_mem_marks_of_isWordChar (List.mem_takeWhile_imp hc)

theorem longSymbols_plain {w : String} (hw : w ∈ longSymbols) : w.toList ≠ [] ∧ Plain w.toList := by
  have h : longSymbols.all (fun w =>
      !w.toList.isEmpty && w.toList.all fun c => !tokenMarks.contains c) = true := by decide
  obtain ⟨hne, hall⟩ := Bool.and_eq_true_iff.1 (List.all_eq_true.1 h w hw)
  refine ⟨by simpa using hne, fun c hc hm => ?_⟩
  have := List.all_eq_true.1 hall c hc
  rw [List.contains_iff_mem.2 hm] at this
  exact absurd this (by simp)

/-! ## Tokens -/

/-- The text of a token, with what follows it: plain characters, then perhaps a quoted span. -/
inductive TokenText : Text → Text → Prop
  | plain {w rest : Text} (hw : Plain w) : TokenText (w ++ rest) rest
  | quoted {w s span rest : Text} {q : Char} (hw : Plain w) (hq : q = '\'' ∨ q = '"')
      (hspan : quoted? q s = some (span, rest)) : TokenText (w ++ q :: s) rest

theorem quoted?_of_string? {marks : StringMarks} {q : Char} {s rest : Text} {t : Token}
    (h : string? marks q s = some (t, rest)) : ∃ span, quoted? q s = some (span, rest) := by
  unfold string? at h
  split at h
  · simp at h
  · rename_i body r hb
    split at h
    · simp at h
    · obtain rfl : r = rest := by simp only [Option.some.injEq, Prod.mk.injEq] at h; exact h.2
      exact ⟨_, by rw [quoted?, hb]; rfl⟩

theorem tokenText_of_numeral? {c : Char} {s rest : Text} {t : Token}
    (h : numeral? c s = some (t, rest)) : TokenText (c :: s) rest := by
  simp only [numeral?] at h
  split at h
  · obtain ⟨value, hvalue, heq⟩ := Option.map_eq_some_iff.1 h
    obtain ⟨hstart, hplain⟩ := numeralRun_plainStart (c :: s)
    -- a numeral has a value only if it has a character, which is `c`
    cases hrun : numeralRun (c :: s) with
    | nil => simp [hrun, numeralValue?] at hvalue
    | cons d w =>
      rw [hrun] at hstart hplain heq
      obtain ⟨t', ht⟩ := hstart
      rw [List.cons_append, List.cons.injEq] at ht
      obtain ⟨rfl, rfl⟩ := ht
      obtain rfl : t' = rest := by simpa using congrArg Prod.snd heq
      exact .plain hplain
  · simp at h

theorem tokenText_of_symbol? {c : Char} {s rest : Text} {t : Token}
    (h : symbol? c s = some (t, rest)) : TokenText (c :: s) rest := by
  unfold symbol? at h
  split at h
  · rename_i w hw
    obtain ⟨hne, hplain⟩ := longSymbols_plain (List.mem_of_find?_eq_some hw)
    have hstart : startsWith w.toList (c :: s) = true := by
      simpa using List.find?_some hw
    obtain ⟨t', ht⟩ := startsWith_iff.1 hstart
    obtain rfl : s.drop (w.length - 1) = rest := by
      simpa using congrArg Prod.snd (Option.some.inj h)
    obtain ⟨d, v, hv⟩ := List.exists_cons_of_ne_nil hne
    have hlen : w.length - 1 = v.length := by
      rw [← String.length_toList, hv]
      rfl
    rw [hv] at ht hplain
    rw [List.cons_append, List.cons.injEq] at ht
    obtain ⟨rfl, rfl⟩ := ht
    rw [hlen, List.drop_left]
    exact .plain hplain
  · split at h
    · rename_i hc
      obtain rfl : s = rest := by simpa using congrArg Prod.snd (Option.some.inj h)
      have hmark : c ∉ tokenMarks := not_mem_marks (p := shortSymbols.contains) (by decide) hc
      exact .plain (w := [c]) (plain_cons.2 ⟨hmark, plain_nil⟩)
    · simp at h

theorem tokenText_of_word? {c : Char} {s rest : Text} {t : Token} (hc : isWordChar c = true)
    (h : word? c s = some (t, rest)) : TokenText (c :: s) rest := by
  have hword : Plain (c :: s.takeWhile isWordChar) :=
    plain_cons.2 ⟨not_mem_marks_of_isWordChar hc, takeWhile_isWordChar_plain s⟩
  have hsplit : c :: s = c :: s.takeWhile isWordChar ++ s.dropWhile isWordChar := by simp
  rw [hsplit]
  -- a word in front of a quote may be the marks of a string
  unfold word? at h
  split at h
  · rename_i hrest
    obtain ⟨_, -, heq⟩ := Option.map_eq_some_iff.1 h
    obtain rfl : [] = rest := congrArg Prod.snd heq
    rw [hrest]
    exact .plain hword
  · rename_i q r hrest
    rw [hrest]
    split at h
    · rename_i mks hmks
      obtain ⟨span, hspan⟩ := quoted?_of_string? h
      refine .quoted hword ?_ hspan
      unfold stringMarks? at hmks
      split at hmks
      · assumption
      · simp at hmks
    · obtain ⟨_, -, heq⟩ := Option.map_eq_some_iff.1 h
      obtain rfl : q :: r = rest := congrArg Prod.snd heq
      exact .plain hword

/-- Every token is read from plain characters, with a quoted span after them if it is a string. -/
theorem tokenText_of_token? {c : Char} {s rest : Text} {t : Token}
    (h : token? c s = some (t, rest)) : TokenText (c :: s) rest := by
  unfold token? at h
  split at h
  · exact tokenText_of_numeral? h
  split at h
  · rename_i hc
    exact tokenText_of_word? hc h
  split at h
  · rename_i hq
    obtain ⟨span, hspan⟩ := quoted?_of_string? h
    exact .quoted (w := []) plain_nil hq hspan
  · exact tokenText_of_symbol? h

end Stencil.Expr
