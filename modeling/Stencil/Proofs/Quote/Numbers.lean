import Stencil.Proofs.Text.Blank
import Stencil.Quote.Query

/-!
# Numbers in queries

What a number comes out as when it is quoted for a query. The written forms of finite numbers are
decimal numerals (`IsNumeral`): digits, an optional fraction and an optional exponent. Main
statement: `quoteValue_number`, a finite number is quoted as a numeral with its sign, unless it is
an integer with too many digits; a number that is not finite comes out as a bare word.
-/

namespace Stencil

/-! ## Numerals -/

namespace Number

/-- Decimal digits, and at least one of them. -/
def IsDigits (s : Text) : Prop := s ≠ [] ∧ ∀ c ∈ s, c.isDigit = true

/-- Nothing, or a point and digits. -/
def IsFraction (s : Text) : Prop := s = [] ∨ ∃ digits, IsDigits digits ∧ s = '.' :: digits

/-- Nothing, or the mark of an exponent, an optional sign and digits. -/
def IsExponent (s : Text) : Prop :=
  s = [] ∨ ∃ mark sign digits, (mark = 'e' ∨ mark = 'E') ∧
    (sign = [] ∨ sign = ['+'] ∨ sign = ['-']) ∧ IsDigits digits ∧ s = mark :: (sign ++ digits)

/-- An unsigned decimal numeral: digits, an optional fraction and an optional exponent. -/
inductive IsNumeral : Text → Prop
  | intro {whole fraction exponent : Text} (hwhole : IsDigits whole)
      (hfraction : IsFraction fraction) (hexponent : IsExponent exponent) :
      IsNumeral (whole ++ fraction ++ exponent)

theorem IsDigits.append_left {s t : Text} (hs : ∀ c ∈ s, c.isDigit = true) (ht : IsDigits t) :
    IsDigits (s ++ t) := by
  refine ⟨List.append_ne_nil_of_right_ne_nil s ht.1, fun c hc => ?_⟩
  obtain hc | hc := List.mem_append.1 hc
  · exact hs c hc
  · exact ht.2 c hc

theorem isDigits_natText (n : Nat) : IsDigits (natText 10 n) :=
  ⟨Nat.toDigits_ne_nil, fun _ hc => Nat.isDigit_of_mem_toDigits (by omega) (by omega) hc⟩

theorem isDigits_zero : IsDigits ['0'] := ⟨by simp, by simp⟩

theorem isDigit_of_mem_zeros {n : Nat} {c : Char} (hc : c ∈ zeros n) : c.isDigit = true := by
  rw [List.eq_of_mem_replicate hc]
  rfl

theorem isDigits_padded (width c : Nat) : IsDigits (padded width c) :=
  (isDigits_natText c).append_left fun _ => isDigit_of_mem_zeros

theorem le_length_padded (width c : Nat) : width ≤ (padded width c).length := by
  simp only [padded, zeros, List.length_append, List.length_replicate]
  omega

/-- A numeral starts with a digit. -/
theorem IsNumeral.exists_cons {s : Text} (h : IsNumeral s) :
    ∃ c rest, s = c :: rest ∧ c.isDigit = true := by
  obtain ⟨hwhole, -, -⟩ := h
  obtain ⟨c, rest, rfl⟩ := List.exists_cons_of_ne_nil hwhole.1
  exact ⟨c, _, rfl, hwhole.2 c (List.mem_cons_self ..)⟩

/-- Digits may stand alone. -/
theorem IsDigits.isNumeral {s : Text} (h : IsDigits s) : IsNumeral s := by
  have := IsNumeral.intro h (.inl rfl) (.inl rfl)
  rwa [List.append_nil, List.append_nil] at this

theorem IsNumeral.of_fraction {whole fraction : Text} (hwhole : IsDigits whole)
    (hfraction : IsFraction fraction) : IsNumeral (whole ++ fraction) := by
  have := IsNumeral.intro hwhole hfraction (.inl rfl)
  rwa [List.append_nil] at this

/-! ## The written forms of numbers -/

theorem isNumeral_positional (c places : Nat) : IsNumeral (positional c places false) := by
  have hdigits := isDigits_padded (places + 1) c
  have hlength := le_length_padded (places + 1) c
  unfold positional
  by_cases hplaces : places = 0
  · simpa [hplaces] using (isDigits_padded (0 + 1) c).isNumeral
  · -- one digit or more stands in front of the point, and `places` of them behind it
    simp only [if_neg hplaces]
    generalize padded (places + 1) c = digits at hdigits hlength ⊢
    have hwhole : IsDigits (digits.take (digits.length - places)) := by
      refine ⟨fun hnil => ?_, fun d hd => hdigits.2 d (List.mem_of_mem_take hd)⟩
      have := congrArg List.length hnil
      rw [List.length_take, List.length_nil] at this
      omega
    have hrest : IsDigits (digits.drop (digits.length - places)) := by
      refine ⟨fun hnil => ?_, fun d hd => hdigits.2 d (List.mem_of_mem_drop hd)⟩
      have := congrArg List.length hnil
      rw [List.length_drop, List.length_nil] at this
      omega
    exact .of_fraction hwhole (.inr ⟨_, hrest, rfl⟩)

/-- A point after the first of several digits makes a fraction of the others. -/
theorem isNumeral_mantissaText {digits exponent : Text} (h : IsDigits digits)
    (hexponent : IsExponent exponent) : IsNumeral (mantissaText digits false ++ exponent) := by
  obtain ⟨d, rest, rfl⟩ := List.exists_cons_of_ne_nil h.1
  have hd : IsDigits [d] := ⟨by simp, by simpa using h.2 d (List.mem_cons_self ..)⟩
  cases rest with
  | nil => simpa [mantissaText] using IsNumeral.intro hd (.inl rfl) hexponent
  | cons e rest =>
    have hrest : IsDigits (e :: rest) :=
      ⟨by simp, fun c hc => h.2 c (List.mem_cons_of_mem d hc)⟩
    exact .intro hd (.inr ⟨_, hrest, rfl⟩) hexponent

theorem isExponent_exponentText {mark : Char} (hmark : mark = 'e' ∨ mark = 'E') (e : Int) :
    IsExponent (exponentText mark e) := by
  have hdigits := isDigits_padded 2 e.natAbs
  unfold exponentText
  split
  · exact .inr ⟨mark, ['-'], _, hmark, .inr (.inr rfl), hdigits, rfl⟩
  · exact .inr ⟨mark, ['+'], _, hmark, .inr (.inl rfl), hdigits, rfl⟩

theorem isNumeral_shortestText (m : Nat) (q : Int) : IsNumeral (shortestText valueLayout m q) := by
  have hdigits := isDigits_natText (shortestDigits m q).1
  unfold shortestText
  dsimp only
  split
  · split
    · exact isNumeral_positional _ _
    · have hwhole : IsDigits (natText 10 (shortestDigits m q).1 ++
          zeros (shortestDigits m q).2.natAbs) :=
        ⟨List.append_ne_nil_of_left_ne_nil hdigits.1 _, fun c hc =>
          (List.mem_append.1 hc).elim (hdigits.2 c) isDigit_of_mem_zeros⟩
      exact .of_fraction hwhole (.inr ⟨['0'], isDigits_zero, rfl⟩)
  · exact isNumeral_mantissaText hdigits (isExponent_exponentText (.inl rfl) _)

/-- A finite floating-point number is written as a numeral with its sign. -/
theorem floatText_of_finite {x : Float} {negative : Bool} {m : Nat} {q : Int}
    (h : parts x = .finite negative m q) :
    ∃ numeral, IsNumeral numeral ∧ floatText x = withSign negative numeral := by
  unfold floatText
  rw [h]
  cases m with
  | zero =>
    exact ⟨_, .of_fraction isDigits_zero (.inr ⟨['0'], isDigits_zero, rfl⟩), rfl⟩
  | succ m => exact ⟨_, isNumeral_shortestText (m + 1) q, rfl⟩

theorem isNumeral_finiteText (c : Nat) (e : Int) : IsNumeral (Decimal.finiteText c e) := by
  have hdigits := isDigits_natText c
  unfold Decimal.finiteText
  dsimp only
  split
  · exact isNumeral_positional c _
  · generalize e + (natText 10 c).length - 1 = shown
    have hshown := isDigits_natText shown.natAbs
    refine isNumeral_mantissaText hdigits (.inr ?_)
    split
    · exact ⟨'E', ['-'], _, .inr rfl, .inr (.inr rfl), hshown, rfl⟩
    · exact ⟨'E', ['+'], _, .inr rfl, .inr (.inl rfl), hshown, rfl⟩

/-! ## Reading numerals -/

theorem isBlank_of_isDigit {c : Char} (h : c.isDigit = true) : Text.isBlank c = false := by
  have hrange : 48 ≤ c.toNat ∧ c.toNat ≤ 57 := Char.isDigit_iff_toNat.1 h
  simp only [Text.isBlank, Bool.or_eq_false_iff, Bool.and_eq_false_iff, decide_eq_false_iff_not,
    beq_eq_false_iff_ne]
  omega

/-- The characters of a numeral are no white space. -/
theorem IsNumeral.isBlank_eq_false {s : Text} (h : IsNumeral s) {c : Char} (hc : c ∈ s) :
    Text.isBlank c = false := by
  obtain ⟨hwhole, hfraction, hexponent⟩ := h
  rw [List.mem_append, List.mem_append] at hc
  obtain (hc | hc) | hc := hc
  · exact isBlank_of_isDigit (hwhole.2 c hc)
  · obtain rfl | ⟨digits, hdigits, rfl⟩ := hfraction
    · exact absurd hc (by simp)
    · obtain rfl | hc := List.mem_cons.1 hc
      · rfl
      · exact isBlank_of_isDigit (hdigits.2 c hc)
  · obtain rfl | ⟨mark, sign, digits, hmark, hsign, hdigits, rfl⟩ := hexponent
    · exact absurd hc (by simp)
    · rw [List.mem_cons, List.mem_append] at hc
      obtain rfl | hc | hc := hc
      · obtain rfl | rfl := hmark <;> rfl
      · obtain rfl | rfl | rfl := hsign
        · exact absurd hc (by simp)
        · rw [List.mem_singleton.1 hc]
          rfl
        · rw [List.mem_singleton.1 hc]
          rfl
      · exact isBlank_of_isDigit (hdigits.2 c hc)

/-- Digits are read up to what is no digit. -/
theorem spanDigits_append {digits rest : Text} (h : ∀ c ∈ digits, c.isDigit = true)
    (hrest : ∀ c ∈ rest.head?, c.isDigit = false) :
    Decimal.spanDigits (digits ++ rest) = (digits, rest) := by
  have hstop : rest.takeWhile Char.isDigit = [] ∧ rest.dropWhile Char.isDigit = rest := by
    refine ⟨?_, Text.dropWhile_eq_self_iff_head?.2 hrest⟩
    cases rest with
    | nil => rfl
    | cons c rest => exact List.takeWhile_cons_of_neg (by simp [hrest c rfl])
  rw [Decimal.spanDigits, List.takeWhile_append_of_pos h, List.dropWhile_append_of_pos h, hstop.1,
    hstop.2, List.append_nil]

/-- An optional sign is taken off digits. -/
theorem exists_signOf_append {sign digits : Text}
    (hsign : sign = [] ∨ sign = ['+'] ∨ sign = ['-']) (hdigits : IsDigits digits) :
    ∃ negative, Decimal.signOf (sign ++ digits) = (negative, digits) := by
  obtain rfl | rfl | rfl := hsign
  · obtain ⟨c, rest, rfl⟩ := List.exists_cons_of_ne_nil hdigits.1
    have hc := hdigits.2 c (List.mem_cons_self ..)
    have hminus : c ≠ '-' := by
      rintro rfl
      exact absurd hc (by decide)
    have hplus : c ≠ '+' := by
      rintro rfl
      exact absurd hc (by decide)
    refine ⟨false, ?_⟩
    rw [List.nil_append, Decimal.signOf.eq_3 _ (by simpa using hminus) (by simpa using hplus)]
  · exact ⟨false, rfl⟩
  · exact ⟨true, rfl⟩

/-- What an exponent starts with is no digit. -/
theorem IsExponent.isDigit_head? {s : Text} (h : IsExponent s) :
    ∀ c ∈ s.head?, c.isDigit = false := by
  obtain rfl | ⟨mark, sign, digits, rfl | rfl, -, -, rfl⟩ := h <;> simp

/-- A numeral can be read. -/
theorem IsNumeral.exists_numeral? {s : Text} (h : IsNumeral s) :
    ∃ c e, Decimal.numeral? s = some (c, e) := by
  obtain @⟨whole, fraction, exponent, hwhole, hfraction, hexponent⟩ := h
  have hhead := hexponent.isDigit_head?
  obtain rfl | ⟨places, hplaces, rfl⟩ := hfraction
  · have hspan := spanDigits_append hwhole.2 hhead
    rw [List.append_nil]
    generalize whole ++ exponent = s at hspan ⊢
    obtain rfl | ⟨mark, sign, digits, hmark, hsign, hdigits, rfl⟩ := hexponent
    · simp [Decimal.numeral?, hspan, hwhole.1]
    · obtain ⟨negative, hsigned⟩ := exists_signOf_append hsign hdigits
      obtain rfl | rfl := hmark <;>
        simpa [Decimal.numeral?, hspan, hwhole.1, hsigned, hdigits.1] using hdigits.2
  · have hspan : Decimal.spanDigits (whole ++ '.' :: places ++ exponent) =
        (whole, '.' :: (places ++ exponent)) := by
      rw [List.append_assoc, List.cons_append]
      exact spanDigits_append hwhole.2 (by simp)
    have hplaced := spanDigits_append hplaces.2 hhead
    generalize whole ++ '.' :: places ++ exponent = s at hspan ⊢
    generalize places ++ exponent = rest at hspan hplaced
    obtain rfl | ⟨mark, sign, digits, hmark, hsign, hdigits, rfl⟩ := hexponent
    · simp [Decimal.numeral?, hspan, hwhole.1, hplaced]
    · obtain ⟨negative, hsigned⟩ := exists_signOf_append hsign hdigits
      obtain rfl | rfl := hmark <;>
        simpa [Decimal.numeral?, hspan, hwhole.1, hplaced, hsigned, hdigits.1] using hdigits.2

/-- A numeral behind a minus is read as a negative number. -/
theorem IsNumeral.exists_ofText? {s : Text} (h : IsNumeral s) :
    ∃ c e, Decimal.ofText? ('-' :: s) = some (.finite true c e) := by
  obtain ⟨c, e, hread⟩ := h.exists_numeral?
  have hblank : ∀ d ∈ '-' :: s, Text.isBlank d = false := by
    intro d hd
    obtain rfl | hd := List.mem_cons.1 hd
    · rfl
    · exact h.isBlank_eq_false hd
  have hstrip : Text.strip ('-' :: s) = '-' :: s :=
    Text.strip_eq_self_iff.2 ⟨fun d hd => hblank d (List.mem_of_mem_head? hd),
      fun d hd => hblank d (List.mem_of_mem_getLast? hd)⟩
  refine ⟨c, e, ?_⟩
  simp only [Decimal.ofText?, hstrip, Decimal.signOf, hread]

end Number

/-! ## Literals -/

open Number

/-- A number that is rounded stays finite and keeps its sign. -/
theorem Number.Decimal.exists_of_rounded_eq_ok {negative : Bool} {c : Nat} {e : Int} {d : Decimal}
    (h : Decimal.rounded negative c e = .ok d) : ∃ c' e', d = .finite negative c' e' := by
  unfold Decimal.rounded at h
  split at h
  · exact ⟨_, _, (Except.ok.inj h).symm⟩
  · -- the bound on the exponent is checked after either way of rounding
    dsimp only at h
    by_cases hleast : e < Decimal.leastExponent ∧
        e + Decimal.digitCount c < Decimal.leastExponent + Decimal.precision
    · rw [if_pos hleast] at h
      split at h
      · exact absurd h (by simp)
      · exact ⟨_, _, (Except.ok.inj h).symm⟩
    · rw [if_neg hleast] at h
      split at h
      · exact absurd h (by simp)
      · exact ⟨_, _, (Except.ok.inj h).symm⟩

/-- A finite decimal number is a numeral with its sign. -/
theorem decimalLiteral_finite (negative : Bool) (c : Nat) (e : Int) :
    ∃ numeral, IsNumeral numeral ∧
      decimalLiteral (.finite negative c e) = withSign negative numeral := by
  have hplain : ∃ numeral, IsNumeral numeral ∧
      (Decimal.finite negative c e).text = withSign negative numeral :=
    ⟨_, isNumeral_finiteText c e, rfl⟩
  cases negative with
  | false => exact hplain
  | true =>
    rw [decimalLiteral]
    split
    · cases hrounded : Decimal.rounded false c e with
      | error fault => exact hplain
      | ok magnitude =>
        obtain ⟨c', e', rfl⟩ := Decimal.exists_of_rounded_eq_ok hrounded
        exact ⟨_, isNumeral_finiteText c' e', rfl⟩
    · exact hplain

/-- A finite floating-point number is a numeral with its sign. -/
theorem floatLiteral_finite {x : Float} {negative : Bool} {m : Nat} {q : Int}
    (h : parts x = .finite negative m q) :
    ∃ numeral, IsNumeral numeral ∧ floatLiteral x = withSign negative numeral := by
  obtain ⟨numeral, hnumeral, htext⟩ := floatText_of_finite h
  unfold floatLiteral
  rw [htext]
  cases negative with
  | true =>
    obtain ⟨c, e, hread⟩ := hnumeral.exists_ofText?
    obtain ⟨literal, hliteral, heq⟩ := decimalLiteral_finite true c e
    refine ⟨literal, hliteral, ?_⟩
    simp only [withSign, if_pos, hread, Option.map_some, Option.getD_some]
    exact heq
  | false =>
    -- without a sign the text starts with a digit
    obtain ⟨d, rest, rfl, hd⟩ := hnumeral.exists_cons
    refine ⟨d :: rest, hnumeral, ?_⟩
    have hminus : d ≠ '-' := by
      rintro rfl
      exact absurd hd (by decide)
    simp only [withSign, Bool.false_eq_true, if_false]
    split
    · rename_i digits heq
      exact absurd (List.cons.inj heq).1 hminus
    · rfl

/-! ## Words -/

/-- Text that starts with a letter. -/
def IsWord (s : Text) : Prop := ∃ c rest, s = c :: rest ∧ c.isAlpha = true

/-- No word is a numeral. -/
theorem IsWord.not_isNumeral {s : Text} (h : IsWord s) : ¬ IsNumeral s := by
  intro hnumeral
  obtain ⟨c, rest, rfl, halpha⟩ := h
  obtain ⟨d, digits, heq, hdigit⟩ := hnumeral.exists_cons
  obtain rfl := (List.cons.inj heq).1
  have hcases : (c.isUpper || c.isLower) = true := halpha
  have hle : c.val ≤ '9'.val := of_decide_eq_true ((Bool.and_eq_true_iff.1 hdigit).2)
  obtain hupper | hlower := Bool.or_eq_true_iff.1 hcases
  · have hge : 'A'.val ≤ c.val := (of_decide_eq_true hupper).1
    exact absurd (UInt32.le_trans hge hle) (by decide)
  · have hge : 'a'.val ≤ c.val := of_decide_eq_true (Bool.and_eq_true_iff.1 hlower).1
    exact absurd (UInt32.le_trans hge hle) (by decide)

/-- An infinite floating-point number is a word with its sign. -/
theorem floatLiteral_infinite {x : Float} {negative : Bool} (h : parts x = .infinite negative) :
    ∃ word, IsWord word ∧ floatLiteral x = withSign negative word := by
  have htext : floatText x = withSign negative ['i', 'n', 'f'] := by rw [floatText, h]
  unfold floatLiteral
  rw [htext]
  cases negative with
  | false => exact ⟨_, ⟨'i', _, rfl, rfl⟩, rfl⟩
  | true =>
    -- a negative number is written as a decimal number, whose infinity has its name in full
    exact ⟨_, ⟨'I', "nfinity".toList, rfl, rfl⟩, by decide +kernel⟩

theorem decimalLiteral_infinite (negative : Bool) :
    ∃ word, IsWord word ∧ decimalLiteral (.infinite negative) = withSign negative word :=
  ⟨_, ⟨'I', "nfinity".toList, rfl, rfl⟩, rfl⟩

theorem decimalLiteral_nan (negative signaling : Bool) (payload : Text) :
    ∃ word, IsWord word ∧
      decimalLiteral (.nan negative signaling payload) = withSign negative word := by
  refine ⟨_, ?_, rfl⟩
  cases signaling with
  | false => exact ⟨'N', _, rfl, rfl⟩
  | true => exact ⟨'s', _, rfl, rfl⟩

/-! ## Values -/

namespace Value

/-- Whether a value is a number. A floating-point value that is not a number is none. -/
def isNumber : Value → Bool
  | .int _ | .decimal .. => true
  | .float x _ => !isNaN x
  | _ => false

/-- Whether a number is finite. -/
def isFinite : Value → Bool
  | .float x _ => match parts x with
    | .finite .. => true
    | _ => false
  | .decimal (.finite ..) _ => true
  | .decimal .. => false
  | _ => true

/-- Whether a number has a minus. -/
def isNegative : Value → Bool
  | .int i => i < 0
  | .float x _ => match parts x with
    | .finite negative .. | .infinite negative => negative
    | .nan => false
  | .decimal (.finite negative ..) _ | .decimal (.infinite negative) _
  | .decimal (.nan negative ..) _ => negative
  | _ => false

/-- Whether a number is an integer with more digits than are written. -/
def isLong : Value → Bool
  | .int i => tens 4300 ≤ i.natAbs
  | _ => false

end Value

namespace Dialect

variable (d : Dialect) {v : Value}

theorem quoteValue_float {x : Float} (h : parts x ≠ .nan) (mark : Nat) :
    d.quoteValue (.float x mark) = .ok (floatLiteral x) := by
  simp [quoteValue, isNaN, h]

/-- A finite number is quoted as a numeral with its sign. -/
theorem quoteValue_of_isFinite (hv : v.isNumber = true) (hfinite : v.isFinite = true)
    (hshort : v.isLong = false) :
    ∃ numeral, IsNumeral numeral ∧ d.quoteValue v = .ok (withSign v.isNegative numeral) := by
  cases v with
  | int i =>
    have hlt : i.natAbs < tens 4300 := by simpa [Value.isLong] using hshort
    refine ⟨_, (isDigits_natText i.natAbs).isNumeral, ?_⟩
    rw [quoteValue, wholeText, if_pos hlt]
    simp [intText, withSign, Value.isNegative, Except.mapError]
  | float x mark =>
    have hnan : parts x ≠ .nan := by simpa [Value.isNumber, isNaN] using hv
    rw [d.quoteValue_float hnan]
    cases hparts : parts x with
    | finite negative m q =>
      obtain ⟨numeral, hnumeral, hliteral⟩ := floatLiteral_finite hparts
      exact ⟨numeral, hnumeral, by rw [hliteral, Value.isNegative, hparts]⟩
    | infinite negative => simp [Value.isFinite, hparts] at hfinite
    | nan => exact absurd hparts hnan
  | decimal x mark =>
    cases x with
    | finite negative c e =>
      obtain ⟨numeral, hnumeral, hliteral⟩ := decimalLiteral_finite negative c e
      exact ⟨numeral, hnumeral, congrArg Except.ok hliteral⟩
    | _ => simp [Value.isFinite] at hfinite
  | _ => simp [Value.isNumber] at hv

/-- Any other number is quoted as a word with its sign. -/
theorem quoteValue_of_not_isFinite (hv : v.isNumber = true) (hinfinite : v.isFinite = false) :
    ∃ word, IsWord word ∧ d.quoteValue v = .ok (withSign v.isNegative word) := by
  cases v with
  | float x mark =>
    have hnan : parts x ≠ .nan := by simpa [Value.isNumber, isNaN] using hv
    rw [d.quoteValue_float hnan]
    cases hparts : parts x with
    | finite negative m q => simp [Value.isFinite, hparts] at hinfinite
    | infinite negative =>
      obtain ⟨word, hword, hliteral⟩ := floatLiteral_infinite hparts
      exact ⟨word, hword, by rw [hliteral, Value.isNegative, hparts]⟩
    | nan => exact absurd hparts hnan
  | decimal x mark =>
    cases x with
    | finite negative c e => simp [Value.isFinite] at hinfinite
    | infinite negative =>
      obtain ⟨word, hword, hliteral⟩ := decimalLiteral_infinite negative
      exact ⟨word, hword, congrArg Except.ok hliteral⟩
    | nan negative signaling payload =>
      obtain ⟨word, hword, hliteral⟩ := decimalLiteral_nan negative signaling payload
      exact ⟨word, hword, congrArg Except.ok hliteral⟩
  | _ => simp [Value.isFinite] at hinfinite

/-- An integer with too many digits is not quoted. -/
theorem quoteValue_of_isLong (hlong : v.isLong = true) :
    ∃ message, d.quoteValue v = .error (.fault (.value message)) := by
  cases v with
  | int i =>
    have hlt : ¬ i.natAbs < tens 4300 := by simpa [Value.isLong] using hlong
    rw [quoteValue, wholeText, if_neg hlt]
    exact ⟨_, rfl⟩
  | _ => simp [Value.isLong] at hlong

/-- A number for a query: a finite number is a numeral with its sign, except that an integer that
has too many digits is refused by the rules for writing integers. A number that is not finite is a
bare word with its sign. -/
theorem quoteValue_number (hv : v.isNumber = true) :
    (v.isFinite = true → v.isLong = false →
      ∃ numeral, IsNumeral numeral ∧ d.quoteValue v = .ok (withSign v.isNegative numeral)) ∧
    (v.isLong = true → ∃ message, d.quoteValue v = .error (.fault (.value message))) ∧
    (v.isFinite = false →
      ∃ word, IsWord word ∧ d.quoteValue v = .ok (withSign v.isNegative word)) :=
  ⟨d.quoteValue_of_isFinite hv, d.quoteValue_of_isLong, d.quoteValue_of_not_isFinite hv⟩

/-- A negative decimal number in scientific notation. -/
theorem quoteValue_number_scientific :
    let x : Value := .decimal (.finite true 15 (-10)) 0
    x.isNumber = true ∧
    (∃ numeral, IsNumeral numeral ∧ standard.quoteValue x = .ok (withSign true numeral)) ∧
    standard.quoteValue x = .ok "-1.5E-9".toList :=
  ⟨rfl, (standard.quoteValue_number rfl).1 rfl rfl, congrArg Except.ok (by decide +kernel)⟩

/-- Infinity is written as a word, which is no numeral. -/
theorem quoteValue_infinity :
    standard.quoteValue (.float (1.0 / 0.0) 0) = .ok ['i', 'n', 'f'] ∧
    ∀ negative, ∀ numeral, IsNumeral numeral →
      standard.quoteValue (.float (1.0 / 0.0) 0) ≠ .ok (withSign negative numeral) := by
  have hinf : standard.quoteValue (.float (1.0 / 0.0) 0) = .ok ['i', 'n', 'f'] := by
    rw [quoteValue, if_neg (by decide +kernel)]
    exact congrArg Except.ok (by decide +kernel)
  refine ⟨hinf, fun negative numeral hnumeral heq => ?_⟩
  rw [hinf, Except.ok.injEq] at heq
  cases negative with
  | false => exact IsWord.not_isNumeral ⟨'i', _, heq.symm, rfl⟩ hnumeral
  | true => exact absurd heq (by simp [withSign])

end Dialect
end Stencil
