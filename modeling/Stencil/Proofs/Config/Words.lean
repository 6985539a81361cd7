import Mathlib.Data.List.Basic
import Stencil.Config.Toml.Parse

/-!
# What readers leave

Readers of configuration documents give what they found together with the rest of the text. Here it
is shown of each that the rest is the end of the text it was given (`Leaves`), so that what can be
said of a whole document can be said of what a reader comes to. A number without a value is a whole
number of too many digits (`hasLongNumber_of_decimalNumber?`).
-/

namespace Stencil.Toml

/-- What a reader found, if anything, leaves the end of a text. The rest is `rest` of what is
found. -/
def Leaves {β : Type} (rest : β → Text) (s : Text) (r : Option β) : Prop :=
  ∀ b, r = some b → rest b <:+ s

namespace Leaves

variable {β γ : Type} {rest : β → Text} {rest' : γ → Text} {r : Option β} {s t : Text}

theorem nothing : Leaves rest s none := by
  intro b h
  cases h

theorem found {b : β} (h : rest b <:+ s) : Leaves rest s (some b) := by
  rintro _ ⟨⟩
  exact h

theorem of_suffix (h : Leaves rest s r) (hs : s <:+ t) : Leaves rest t r :=
  fun b hb => (h b hb).trans hs

/-- What is found after something else leaves the end of the same text. -/
theorem bind {f : β → Option γ} (h : Leaves rest s r)
    (hf : ∀ b, rest b <:+ s → Leaves rest' s (f b)) : Leaves rest' s (r.bind f) := by
  intro c hc
  obtain ⟨b, hb, hc⟩ := Option.bind_eq_some_iff.1 hc
  exact hf b (h b hb) c hc

theorem map {f : β → γ} (h : Leaves rest s r) (hf : ∀ b, rest b <:+ s → rest' (f b) <:+ s) :
    Leaves rest' s (r.map f) := by
  intro c hc
  obtain ⟨b, hb, rfl⟩ := Option.map_eq_some_iff.1 hc
  exact hf b (h b hb)

theorem getD {r : Option Text} {t : Text} (h : Leaves id s r) (ht : t <:+ s) : r.getD t <:+ s := by
  cases r with
  | none => exact ht
  | some u => exact h u rfl

end Leaves

/-! ## White space -/

theorem skipSpace_suffix (s : Text) : skipSpace s <:+ s := List.dropWhile_suffix isSpace

theorem leaves_skipComment (s : Text) : Leaves id s (skipComment s) := by
  unfold skipComment
  split
  · split
    · exact .nothing
    · exact .found ((List.dropWhile_suffix _).trans (List.suffix_cons ..))
  · exact .found List.suffix_rfl

theorem leaves_skipLines (n : Nat) (s : Text) : Leaves id s (skipLines n s) := by
  induction n generalizing s with
  | zero => exact .found List.suffix_rfl
  | succ n ih =>
    have hblank : s.dropWhile isSpaceOrNewline <:+ s := List.dropWhile_suffix _
    unfold skipLines
    split
    case h_1 rest hrest =>
      rw [hrest] at hblank
      exact ((leaves_skipComment _).bind fun t ht => (ih t).of_suffix ht).of_suffix hblank
    case h_2 => exact .found hblank

/-! ## Quoted texts -/

theorem leaves_hexChar? (count : Nat) (s : Text) : Leaves Prod.snd s (hexChar? count s) := by
  unfold hexChar?
  dsimp only
  split
  · exact .found (List.drop_suffix ..)
  · exact .nothing

theorem leaves_escape? (multiline : Bool) (s : Text) :
    Leaves Prod.snd s (escape? multiline s) := by
  unfold escape?
  split
  case h_8 s => exact (leaves_hexChar? 4 s).of_suffix (List.suffix_cons ..)
  case h_9 s => exact (leaves_hexChar? 8 s).of_suffix (List.suffix_cons ..)
  case h_10 =>
    have hblank := skipSpace_suffix s
    split
    · split
      · exact .found (List.nil_suffix ..)
      · rename_i hrest
        rw [hrest] at hblank
        exact .found (((List.dropWhile_suffix _).trans (List.suffix_cons ..)).trans hblank)
      · exact .nothing
    · exact .nothing
  all_goals exact .found (List.suffix_cons ..)

theorem leaves_basicBody? (multiline : Bool) (n : Nat) (s : Text) :
    Leaves Prod.snd s (basicBody? multiline n s) := by
  induction n generalizing s with
  | zero => exact .nothing
  | succ n ih =>
    cases s with
    | nil => exact .nothing
    | cons c s =>
      have htail : s <:+ c :: s := List.suffix_cons c s
      have hmore (piece : Text) (t : Text) (ht : t <:+ c :: s) :
          Leaves Prod.snd (c :: s)
            ((basicBody? multiline n t).map fun p => (piece ++ p.1, p.2)) :=
        ((ih t).of_suffix ht).map fun _ h => h
      unfold basicBody?
      split
      · split
        · exact .found htail
        · split
          · exact .found ((List.drop_suffix ..).trans htail)
          · exact hmore ['"'] s htail
      · split
        · exact ((leaves_escape? multiline s).of_suffix htail).bind fun p hp => hmore p.1 p.2 hp
        · split
          · exact .nothing
          · exact hmore [c] s htail

theorem leaves_literalBody? (multiline : Bool) (s : Text) :
    Leaves Prod.snd s (literalBody? multiline s) := by
  induction s with
  | nil => exact .nothing
  | cons c s ih =>
    have htail : s <:+ c :: s := List.suffix_cons c s
    unfold literalBody?
    split
    · cases multiline
      · exact .found htail
      · exact .found ((List.drop_suffix ..).trans htail)
    · split
      · exact .nothing
      · exact (ih.of_suffix htail).map fun _ h => h

theorem dropNewline_suffix (s : Text) : dropNewline s <:+ s := by
  unfold dropNewline
  split
  · exact List.suffix_cons ..
  · exact List.suffix_rfl

theorem trailingQuotes_suffix (quote : Char) (found : Text × Text) :
    (trailingQuotes quote found).2 <:+ found.2 :=
  List.drop_suffix ..

theorem leaves_lineText? (s : Text) : Leaves Prod.snd s (lineText? s) := by
  unfold lineText?
  split
  · exact (leaves_basicBody? _ _ _).of_suffix (List.suffix_cons ..)
  · exact (leaves_literalBody? _ _).of_suffix (List.suffix_cons ..)
  · exact .nothing

theorem leaves_quotedText? (s : Text) : Leaves Prod.snd s (quotedText? s) := by
  unfold quotedText?
  have hthree (a b c : Char) (t : Text) : dropNewline t <:+ a :: b :: c :: t :=
    (dropNewline_suffix t).trans ⟨[a, b, c], rfl⟩
  split
  · exact ((leaves_basicBody? _ _ _).of_suffix (hthree ..)).map fun p hp =>
      (trailingQuotes_suffix _ p).trans hp
  · exact ((leaves_literalBody? _ _).of_suffix (hthree ..)).map fun p hp =>
      (trailingQuotes_suffix _ p).trans hp
  · exact leaves_lineText? _

/-! ## Numbers -/

/-- A text has a run of digits, with or without underscores between them, that is too long for a
whole number. -/
def HasLongNumber (s : Text) : Prop :=
  ∃ run, run <:+: s ∧ (∀ c ∈ run, c.isDigit = true ∨ c = '_') ∧
    maxDigits < run.countP Char.isDigit

theorem HasLongNumber.of_suffix {s t : Text} (h : HasLongNumber s) (hs : s <:+ t) :
    HasLongNumber t := by
  obtain ⟨run, hrun, hdigits, hlong⟩ := h
  exact ⟨run, hrun.trans hs.isInfix, hdigits, hlong⟩

/-- Digits, with underscores between them, in which all that were found occur. -/
structure IsRun (isDigit : Char → Bool) (digits run : Text) : Prop where
  digit : ∀ c ∈ run, isDigit c = true ∨ c = '_'
  length_le : digits.length ≤ run.countP isDigit

namespace IsRun

variable {isDigit : Char → Bool} {digits run : Text} {c : Char}

theorem nil (isDigit : Char → Bool) : IsRun isDigit [] [] := ⟨by simp, by simp⟩

theorem cons (h : IsRun isDigit digits run) (hc : isDigit c = true) :
    IsRun isDigit (c :: digits) (c :: run) where
  digit := List.forall_mem_cons.2 ⟨.inl hc, h.digit⟩
  length_le := by
    rw [List.countP_cons_of_pos hc, List.length_cons]
    exact Nat.succ_le_succ h.length_le

theorem underscore (h : IsRun isDigit digits run) : IsRun isDigit digits ('_' :: run) where
  digit := List.forall_mem_cons.2 ⟨.inr rfl, h.digit⟩
  length_le := Nat.le_trans h.length_le (by rw [List.countP_cons]; omega)

end IsRun

/-- Digits are found at the start of a text. -/
theorem moreDigits_run (isDigit : Char → Bool) (s : Text) :
    ∃ run, s = run ++ (moreDigits isDigit s).2 ∧ IsRun isDigit (moreDigits isDigit s).1 run := by
  fun_induction moreDigits isDigit s with
  | case1 c s hc digits rest hmore ih =>
    rw [hmore] at ih
    obtain ⟨run, rfl, hrun⟩ := ih
    exact ⟨'_' :: c :: run, rfl, (hrun.cons hc).underscore⟩
  | case3 c s _ hc digits rest hmore ih =>
    rw [hmore] at ih
    obtain ⟨run, rfl, hrun⟩ := ih
    exact ⟨c :: run, rfl, hrun.cons hc⟩
  | case2 | case4 | case5 => exact ⟨[], rfl, .nil isDigit⟩

theorem digits?_run {isDigit : Char → Bool} {s digits rest : Text}
    (h : digits? isDigit s = some (digits, rest)) :
    ∃ run, s = run ++ rest ∧ IsRun isDigit digits run := by
  unfold digits? at h
  split at h
  case h_1 c s =>
    split at h
    case isTrue hc =>
      obtain ⟨rfl, rfl⟩ := Prod.mk.inj (Option.some.inj h)
      obtain ⟨run, hs, hrun⟩ := moreDigits_run isDigit s
      exact ⟨c :: run, congrArg (c :: ·) hs, hrun.cons hc⟩
    case isFalse => cases h
  case h_2 => cases h

theorem leaves_digits? (isDigit : Char → Bool) (s : Text) :
    Leaves Prod.snd s (digits? isDigit s) := by
  rintro ⟨digits, rest⟩ h
  obtain ⟨run, rfl, -⟩ := digits?_run h
  exact List.suffix_append ..

theorem leaves_basedNumber? (s : Text) : Leaves Prod.snd s (basedNumber? s) := by
  unfold basedNumber?
  split
  case h_1 mark s =>
    have hbase (b : Nat) (isDigit : Char → Bool) :
        Leaves Prod.snd ('0' :: mark :: s)
          ((digits? isDigit s).map fun p => (Item.int (digitsTo b p.1), p.2)) :=
      ((leaves_digits? isDigit s).of_suffix ⟨['0', mark], rfl⟩).map fun _ h => h
    dsimp only
    split
    · exact hbase 16 _
    · split
      · exact hbase 8 _
      · split
        · exact hbase 2 _
        · exact .nothing
  case h_2 => exact .nothing

theorem signOf_suffix (s : Text) : (Number.Decimal.signOf s).2 <:+ s := by
  unfold Number.Decimal.signOf
  split
  · exact List.suffix_cons ..
  · exact List.suffix_cons ..
  · exact List.suffix_rfl

theorem leaves_wholePart? (s : Text) : Leaves Prod.snd s (wholePart? s) := by
  unfold wholePart?
  split
  · exact .found (List.suffix_cons ..)
  · exact leaves_digits? _ _

theorem fraction_suffix (s : Text) : (fraction s).2 <:+ s := by
  unfold fraction
  split
  case h_1 rest =>
    cases h : digits? Char.isDigit rest with
    | none => exact List.suffix_rfl
    | some p => exact (leaves_digits? _ _ p h).trans (List.suffix_cons ..)
  case h_2 => exact List.suffix_rfl

theorem leaves_exponent? (s : Text) : Leaves Prod.snd s (exponent? s) := by
  unfold exponent?
  split
  case h_1 mark rest =>
    split
    · have hrest : (Number.Decimal.signOf rest).2 <:+ mark :: rest :=
        (signOf_suffix rest).trans (List.suffix_cons ..)
      exact ((leaves_digits? _ _).of_suffix hrest).map fun _ h => h
    · exact .nothing
  case h_2 => exact .nothing

theorem leaves_decimalNumber? (s : Text) : Leaves Prod.snd s (decimalNumber? s) := by
  unfold decimalNumber?
  refine ((leaves_wholePart? _).of_suffix (signOf_suffix s)).bind fun p hp => ?_
  have hplaces : (fraction p.2).2 <:+ s := (fraction_suffix p.2).trans hp
  dsimp only
  split
  · exact .found hp
  · refine .found ?_
    cases hpower : exponent? (fraction p.2).2 with
    | none => exact hplaces
    | some power => exact (leaves_exponent? _ power hpower).trans hplaces

/-- The whole part of a number stands at its start. -/
theorem wholePart?_run {s whole rest : Text} (h : wholePart? s = some (whole, rest)) :
    ∃ run, s = run ++ rest ∧ IsRun Char.isDigit whole run := by
  unfold wholePart? at h
  split at h
  · obtain ⟨rfl, rfl⟩ := Prod.mk.inj (Option.some.inj h)
    exact ⟨['0'], rfl, (IsRun.nil _).cons rfl⟩
  · exact digits?_run h

/-- A number without a value is a whole number of too many digits. -/
theorem hasLongNumber_of_decimalNumber? {s rest : Text}
    (h : decimalNumber? s = some (none, rest)) : HasLongNumber s := by
  unfold decimalNumber? at h
  obtain ⟨⟨whole, afterWhole⟩, hwhole, h⟩ := Option.bind_eq_some_iff.1 h
  have hlong : maxDigits < whole.length := by
    dsimp only at h
    split at h
    · by_contra hshort
      rw [if_neg hshort] at h
      cases h
    · cases h
  obtain ⟨run, hrun, hdigits⟩ := wholePart?_run hwhole
  refine ⟨run, ?_, hdigits.digit, Nat.lt_of_lt_of_le hlong hdigits.length_le⟩
  have hstart : run <+: (Number.Decimal.signOf s).2 := ⟨afterWhole, hrun.symm⟩
  exact hstart.isInfix.trans (signOf_suffix s).isInfix

theorem leaves_specialNumber? (s : Text) : Leaves Prod.snd s (specialNumber? s) := by
  have hsign := signOf_suffix s
  unfold specialNumber?
  dsimp only
  split
  case h_1 rest hrest =>
    rw [hrest] at hsign
    exact .found (List.IsSuffix.trans ⟨['i', 'n', 'f'], rfl⟩ hsign)
  case h_2 rest hrest =>
    rw [hrest] at hsign
    exact .found (List.IsSuffix.trans ⟨['n', 'a', 'n'], rfl⟩ hsign)
  case h_3 => exact .nothing

/-! ## Dates and times -/

theorem leaves_twoDigits? (least most : Nat) (s : Text) :
    Leaves Prod.snd s (twoDigits? least most s) := by
  unfold twoDigits?
  split
  case h_1 a b s =>
    dsimp only
    split
    · exact .found ⟨[a, b], rfl⟩
    · exact .nothing
  case h_2 => exact .nothing

theorem leaves_expect? (c : Char) (s : Text) : Leaves id s (expect? c s) := by
  unfold expect?
  split
  · split
    · exact .found (List.suffix_cons ..)
    · exact .nothing
  · exact .nothing

theorem leaves_date? (s : Text) : Leaves Prod.snd s (date? s) := by
  unfold date?
  refine (leaves_twoDigits? 0 99 s).bind fun p hp => ?_
  refine ((leaves_twoDigits? 0 99 p.2).of_suffix hp).bind fun p hp => ?_
  refine ((leaves_expect? '-' p.2).of_suffix hp).bind fun t ht => ?_
  refine ((leaves_twoDigits? 1 12 t).of_suffix ht).bind fun p hp => ?_
  refine ((leaves_expect? '-' p.2).of_suffix hp).bind fun t ht => ?_
  refine ((leaves_twoDigits? 1 31 t).of_suffix ht).bind fun p hp => ?_
  exact .found hp

theorem skipSecondFraction_suffix (s : Text) : skipSecondFraction s <:+ s := by
  unfold skipSecondFraction
  split
  case h_1 c rest =>
    split
    · exact (List.dropWhile_suffix _).trans ⟨['.', c], rfl⟩
    · exact List.suffix_rfl
  case h_2 => exact List.suffix_rfl

theorem leaves_time? (s : Text) : Leaves id s (time? s) := by
  unfold time?
  refine (leaves_twoDigits? 0 23 s).bind fun p hp => ?_
  refine ((leaves_expect? ':' p.2).of_suffix hp).bind fun t ht => ?_
  refine ((leaves_twoDigits? 0 59 t).of_suffix ht).bind fun p hp => ?_
  refine ((leaves_expect? ':' p.2).of_suffix hp).bind fun t ht => ?_
  refine ((leaves_twoDigits? 0 59 t).of_suffix ht).bind fun p hp => ?_
  exact .found ((skipSecondFraction_suffix p.2).trans hp)

theorem skipOffset_suffix (s : Text) : skipOffset s <:+ s := by
  unfold skipOffset
  split
  case h_1 c rest =>
    have hrest : rest <:+ c :: rest := List.suffix_cons c rest
    split
    · exact hrest
    · split
      · refine Leaves.getD ?_ List.suffix_rfl
        refine ((leaves_twoDigits? 0 23 rest).of_suffix hrest).bind fun p hp => ?_
        refine ((leaves_expect? ':' p.2).of_suffix hp).bind fun t ht => ?_
        refine ((leaves_twoDigits? 0 59 t).of_suffix ht).bind fun p hp => ?_
        exact .found hp
      · exact List.suffix_rfl
  case h_2 => exact List.suffix_rfl

theorem leaves_dateTime? (s : Text) : Leaves Prod.snd s (dateTime? s) := by
  unfold dateTime?
  refine (leaves_date? s).bind fun p hp => .found ?_
  refine List.IsSuffix.trans (Leaves.getD ?_ List.suffix_rfl) hp
  split
  case h_1 c rest hrest =>
    rw [hrest]
    split
    · exact ((leaves_time? rest).of_suffix (List.suffix_cons ..)).map fun t ht =>
        (skipOffset_suffix t).trans ht
    · exact .nothing
  case h_2 => exact .nothing

/-! ## Keys -/

theorem leaves_keyPart? (s : Text) : Leaves Prod.snd s (keyPart? s) := by
  unfold keyPart?
  split
  · exact leaves_lineText? s
  · exact .found (List.dropWhile_suffix _)

theorem leaves_key? (n : Nat) (s : Text) : Leaves Prod.snd s (key? n s) := by
  induction n generalizing s with
  | zero => exact .nothing
  | succ n ih =>
    unfold key?
    refine (leaves_keyPart? s).bind fun p hp => ?_
    have hrest : skipSpace p.2 <:+ s := (skipSpace_suffix p.2).trans hp
    dsimp only
    split
    case h_1 rest hpoint =>
      rw [hpoint] at hrest
      have hnext : skipSpace rest <:+ s :=
        ((skipSpace_suffix rest).trans (List.suffix_cons ..)).trans hrest
      exact ((ih (skipSpace rest)).of_suffix hnext).bind fun q hq => .found hq
    case h_2 => exact .found hrest

end Stencil.Toml
