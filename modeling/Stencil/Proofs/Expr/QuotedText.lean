import Mathlib.Algebra.Group.Nat.Defs
import Stencil.Proofs.Expr.BlockEnd
import Stencil.Proofs.Template.Quotation
import Stencil.Text.Quoted

/-!
# Quoted texts as expressions

The quoted form of a text is a quoted span, whatever the text is made of (`quoted?_quoted`), and
what stands between its quotes is read as the text (`unescape?_quotedChars`). Both go by the two
ways to write a character there (`quotedChar_cases`): as it is, or as an escape that is read back.
Main statement: `compile_quoted`, as an expression the quoted form is the text.
-/

namespace Stencil.Expr

open Template Text

/-! ## Hexadecimal digits -/

section

variable {width n : Nat}

theorem baseDigit?_digitChar : ∀ d < 16, baseDigit? 16 (Nat.digitChar d) = some d := by decide

theorem isAlphanum_digitChar : ∀ d < 16, (Nat.digitChar d).isAlphanum = true := by decide

/-- The digits of a number in base sixteen, the first ones first. -/
theorem exists_toDigits (n : Nat) :
    ∃ digits : List Nat, Nat.toDigits 16 n = digits.map Nat.digitChar ∧ (∀ d ∈ digits, d < 16) ∧
      digits.foldl (fun n d => 16 * n + d) 0 = n := by
  induction n using Nat.strongRecOn with
  | ind n ih =>
    by_cases hn : n < 16
    · exact ⟨[n], Nat.toDigits_of_lt_base hn, by simpa using hn, by simp⟩
    · obtain ⟨digits, htext, hdigits, hvalue⟩ := ih (n / 16) (by omega)
      refine ⟨digits ++ [n % 16], ?_, ?_, ?_⟩
      · rw [Nat.toDigits_of_base_le (by decide) (Nat.le_of_not_lt hn), htext, List.map_append,
          List.map_singleton]
      · intro d hd
        obtain hd | hd := List.mem_append.1 hd
        · exact hdigits d hd
        · rw [List.mem_singleton.1 hd]
          exact Nat.mod_lt n (by decide)
      · rw [List.foldl_append, hvalue]
        exact Nat.div_add_mod n 16

/-- A number that has room in `width` digits, filled up with zeros to so many. -/
theorem exists_hexText (hwidth : 0 < width) (hn : n < 16 ^ width) :
    ∃ digits : List Nat, hexText width n = digits.map Nat.digitChar ∧ digits.length = width ∧
      (∀ d ∈ digits, d < 16) ∧ digits.foldl (fun n d => 16 * n + d) 0 = n := by
  obtain ⟨digits, htext, hdigits, hvalue⟩ := exists_toDigits n
  have hlen : digits.length ≤ width := by
    have := (Nat.length_toDigits_le_iff (by decide) hwidth).2 hn
    rwa [htext, List.length_map] at this
  refine ⟨List.replicate (width - digits.length) 0 ++ digits, ?_, ?_, ?_, ?_⟩
  · rw [hexText, htext, List.length_map, List.map_append, List.map_replicate]
    rfl
  · rw [List.length_append, List.length_replicate, Nat.sub_add_cancel hlen]
  · intro d hd
    obtain hd | hd := List.mem_append.1 hd
    · rw [List.eq_of_mem_replicate hd]
      decide
    · exact hdigits d hd
  · have hzeros (k : Nat) : (List.replicate k 0).foldl (fun n d => 16 * n + d) 0 = 0 := by
      induction k with
      | zero => rfl
      | succ k ih => exact ih
    rw [List.foldl_append, hzeros, hvalue]

theorem mapM_digitChar {digits : List Nat} (h : ∀ d ∈ digits, d < 16) :
    (digits.map Nat.digitChar).mapM (baseDigit? 16) = some digits := by
  induction digits with
  | nil => rfl
  | cons d digits ih =>
    obtain ⟨hd, hdigits⟩ := List.forall_mem_cons.1 h
    rw [List.map_cons, List.mapM_cons, baseDigit?_digitChar d hd, ih hdigits]
    rfl

/-- The code point of a character is read as the character, whatever follows. -/
theorem hexChar?_hexText {c : Char} (hwidth : 0 < width) (hc : c.toNat < 16 ^ width) (t : Text) :
    hexChar? width (hexText width c.toNat ++ t) = some c := by
  obtain ⟨digits, htext, hlen, hdigits, hvalue⟩ := exists_hexText hwidth hc
  have htake : (digits.map Nat.digitChar ++ t).take width = digits.map Nat.digitChar := by
    rw [← hlen, ← List.length_map (f := Nat.digitChar), List.take_left]
  have hvalid : c.toNat.isValidChar := c.valid
  rw [htext, hexChar?, htake, mapM_digitChar hdigits]
  simp only [Option.bind_eq_bind, Option.bind_some, hlen, hvalue, hvalid, if_true,
    Char.ofNat_toNat]

theorem isAlphanum_of_mem_hexText (hwidth : 0 < width) (hn : n < 16 ^ width) :
    ∀ x ∈ hexText width n, x.isAlphanum = true := by
  obtain ⟨digits, htext, -, hdigits, -⟩ := exists_hexText hwidth hn
  intro x hx
  rw [htext] at hx
  obtain ⟨d, hd, rfl⟩ := List.mem_map.1 hx
  exact isAlphanum_digitChar d (hdigits d hd)

theorem length_hexText (hwidth : 0 < width) (hn : n < 16 ^ width) :
    (hexText width n).length = width := by
  obtain ⟨digits, htext, hlen, -⟩ := exists_hexText hwidth hn
  rw [htext, List.length_map, hlen]

end

/-! ## Reading escapes -/

section

variable {names : CharNames} {bytes : Bool} {c : Char} {t : Text}

theorem unescape?_cons (hc : c ≠ '\\') :
    unescape? names bytes (c :: t) = (unescape? names bytes t).map (c :: ·) := by
  rw [unescape?.eq_def]
  exact if_neg hc

theorem unescape?_escape {text digits : Text}
    (h : escape? names bytes c (digits ++ t) = some (text, digits.length)) :
    unescape? names bytes ('\\' :: c :: (digits ++ t)) =
      (unescape? names bytes t).map (text ++ ·) := by
  rw [unescape?.eq_def]
  simp only [h, if_true, Option.bind_eq_bind, Option.bind_some, List.drop_left]
  cases unescape? names bytes t <;> rfl

end

/-! ## Characters between quotes -/

/-- The text after a backslash is an escape for a character: a letter, a quote or a backslash, and
digits, which are read as the character whatever follows. No character is called by its name. -/
def IsEscape (q c : Char) (escape : Text) : Prop :=
  ∃ d digits, escape = d :: digits ∧ (d = q ∨ d = '\\' ∨ d.isAlphanum = true) ∧
    (∀ x ∈ digits, x.isAlphanum = true) ∧
    ∀ names t, escape? names false d (digits ++ t) = some ([c], digits.length)

section

variable {plain : Char → Bool} {q c : Char}

theorem isEscape_letter {d : Char} (hd : d = q ∨ d = '\\' ∨ d.isAlphanum = true)
    (h : ∀ names t, escape? names false d t = some ([c], 0)) : IsEscape q c [d] :=
  ⟨d, [], rfl, hd, by simp, h⟩

theorem isEscape_code (c : Char) : ∃ escape, codeEscape c.toNat = '\\' :: escape ∧
    IsEscape q c escape := by
  have hmax : c.val.toNat < 16 ^ 8 := by
    have := c.val.toNat_lt
    omega
  have hcode {mark : Char} {width : Nat} (hwidth : 0 < width) (hn : c.toNat < 16 ^ width)
      (hmark : mark.isAlphanum = true)
      (h : ∀ names t, escape? names false mark t =
        (hexChar? width t).map fun x => ([x], width)) :
      IsEscape q c (mark :: hexText width c.toNat) := by
    refine ⟨mark, _, rfl, .inr (.inr hmark), isAlphanum_of_mem_hexText hwidth hn,
      fun names t => ?_⟩
    rw [h, hexChar?_hexText hwidth hn, length_hexText hwidth hn]
    rfl
  rw [codeEscape]
  split
  · rename_i hn
    exact ⟨_, rfl, hcode (by decide) hn (by decide) fun _ _ => rfl⟩
  · split
    · rename_i hn
      exact ⟨_, rfl, hcode (by decide) hn (by decide) fun _ _ => rfl⟩
    · exact ⟨_, rfl, hcode (by decide) hmax (by decide) fun _ _ => rfl⟩

/-- A character between quotes stands as it is or is escaped. -/
theorem quotedChar_cases (plain : Char → Bool) (hq : q = '\'' ∨ q = '"') (c : Char) :
    (quotedChar plain q c = [c] ∧ plain c = true ∧ c ∉ [q, '\\', '\n', '\r']) ∨
      ∃ escape, quotedChar plain q c = '\\' :: escape ∧ IsEscape q c escape := by
  rw [quotedChar]
  split
  · rename_i hc
    refine .inr ⟨_, rfl, isEscape_letter (hc.imp_right .inl) fun _ t => ?_⟩
    obtain rfl | rfl := hc
    · obtain rfl | rfl := hq <;> rfl
    · rfl
  split
  · rename_i hc
    subst hc
    exact .inr ⟨_, rfl, isEscape_letter (.inr (.inr (by decide))) fun _ _ => rfl⟩
  split
  · rename_i hc
    subst hc
    exact .inr ⟨_, rfl, isEscape_letter (.inr (.inr (by decide))) fun _ _ => rfl⟩
  split
  · rename_i hc
    subst hc
    exact .inr ⟨_, rfl, isEscape_letter (.inr (.inr (by decide))) fun _ _ => rfl⟩
  split
  · rename_i hquote hnl hcr _ hplain
    rw [not_or] at hquote
    exact .inl ⟨rfl, hplain, by simp [hquote, hnl, hcr]⟩
  · exact .inr (isEscape_code c)

/-- Quotes, backslashes, letters, digits and what stands as it is are all that quoted texts have. -/
theorem mem_quotedChar (hq : q = '\'' ∨ q = '"') {x : Char} (hx : x ∈ quotedChar plain q c) :
    x = q ∨ x = '\\' ∨ x.isAlphanum = true ∨ plain x = true ∧ x ∉ ['\n', '\r'] := by
  obtain ⟨hself, hplain, hother⟩ | ⟨_, hescape, d, digits, rfl, hd, hdigits, -⟩ :=
    quotedChar_cases plain hq c
  · rw [hself, List.mem_singleton] at hx
    subst hx
    have hsub : ['\n', '\r'] ⊆ [q, '\\', '\n', '\r'] := by simp
    exact .inr (.inr (.inr ⟨hplain, fun hmem => hother (hsub hmem)⟩))
  · rw [hescape, List.mem_cons, List.mem_cons] at hx
    obtain rfl | rfl | hx := hx
    · exact .inr (.inl rfl)
    · exact hd.imp_right (Or.imp_right .inl)
    · exact .inr (.inr (.inl (hdigits x hx)))

/-- Between quotes a character is read as itself. -/
theorem unescape?_quotedChar (names : CharNames) (hq : q = '\'' ∨ q = '"') (c : Char) (t : Text) :
    unescape? names false (quotedChar plain q c ++ t) =
      (unescape? names false t).map (c :: ·) := by
  obtain ⟨hself, -, hother⟩ | ⟨_, hescape, d, digits, rfl, -, -, hread⟩ :=
    quotedChar_cases plain hq c
  · have hslash : c ≠ '\\' := by
      rintro rfl
      exact hother (by simp)
    rw [hself, List.singleton_append, unescape?_cons hslash]
  · rw [hescape, List.cons_append, List.cons_append, unescape?_escape (hread names t)]
    rfl

/-- A character between quotes does not end the quoted span. -/
theorem quotedBody_quotedChar (hq : q = '\'' ∨ q = '"') (c : Char) {body rest : Text}
    (h : QuotedBody [q] rest body) : QuotedBody [q] rest (quotedChar plain q c ++ body) := by
  have hchar {x : Char} {body : Text} (hquote : x ≠ q) (hslash : x ≠ '\\')
      (h : QuotedBody [q] rest body) : QuotedBody [q] rest (x :: body) := by
    refine .char hslash (fun hstart => hquote ?_) h
    exact (List.cons_prefix_cons.1 hstart).1.symm
  obtain ⟨hself, -, hother⟩ | ⟨_, hescape, d, digits, rfl, -, hdigits, -⟩ :=
    quotedChar_cases plain hq c
  · rw [hself]
    exact hchar (fun he => hother (by simp [he])) (fun he => hother (by simp [he])) h
  · rw [hescape]
    -- the backslash takes the first character with it, and digits are none of the marks
    refine .escaped d ?_
    clear hescape
    induction digits with
    | nil => exact h
    | cons x digits ih =>
      obtain ⟨hx, hdigits⟩ := List.forall_mem_cons.1 hdigits
      refine hchar ?_ ?_ (ih hdigits)
      · rintro rfl
        obtain rfl | rfl := hq <;> exact absurd hx (by decide)
      · rintro rfl
        exact absurd hx (by decide)

end

/-! ## Quoted texts -/

section

variable {plain : Char → Bool} {q : Char} (hq : q = '\'' ∨ q = '"') (s : Text)
include hq

theorem unescape?_quotedChars (names : CharNames) :
    unescape? names false (s.flatMap (quotedChar plain q)) = some s := by
  induction s with
  | nil => rw [List.flatMap_nil, unescape?]
  | cons c s ih =>
    rw [List.flatMap_cons, unescape?_quotedChar names hq, ih]
    rfl

theorem quotedBody_quotedChars (rest : Text) :
    QuotedBody [q] rest (s.flatMap (quotedChar plain q)) := by
  induction s with
  | nil => exact .nil
  | cons c s ih =>
    rw [List.flatMap_cons]
    exact quotedBody_quotedChar hq c ih

end

theorem quoteFor_eq (s : Text) : quoteFor s = '\'' ∨ quoteFor s = '"' := by
  rw [quoteFor]
  split
  · exact .inr rfl
  · exact .inl rfl

theorem isQuote_quoteFor (s : Text) : isQuote (quoteFor s) = true := by
  obtain hq | hq := quoteFor_eq s <;> rw [hq] <;> rfl

theorem ne_quoteFor {c : Char} (hc : isQuote c = false) (s : Text) : c ≠ quoteFor s := by
  rintro rfl
  exact absurd (hc.symm.trans (isQuote_quoteFor s)) (by simp)

theorem hasBareNewline_of_not_mem {s : Text} (h : '\n' ∉ s) : hasBareNewline s = false := by
  fun_induction hasBareNewline s with
  | case1 => rfl
  | case2 c s ih => exact ih fun hmem => h (by simp [hmem])
  | case3 c s _ ih =>
    rw [List.mem_cons, not_or] at h
    rw [ih h.2, Bool.or_false]
    exact beq_false_of_ne (Ne.symm h.1)

/-- What stands between the quotes of a quoted text. -/
def insideQuotes (s : Text) : Text := s.flatMap (quotedChar isPrintable (quoteFor s))

theorem quoted_eq (s : Text) : Text.quoted s = quoteFor s :: (insideQuotes s ++ [quoteFor s]) := rfl

section

variable (s : Text)

/-- A quoted text is a single line and has no null character. -/
theorem not_mem_quoted {x : Char} (hx : x ∈ ['\n', '\r', '\x00']) : x ∉ Text.quoted s := by
  have hother : isQuote x = false ∧ x ≠ '\\' ∧ x.isAlphanum = false ∧
      (isPrintable x = false ∨ x ∈ ['\n', '\r']) := by
    simp only [List.mem_cons, List.not_mem_nil, or_false] at hx
    obtain rfl | rfl | rfl := hx <;> decide
  obtain ⟨hmark, hslash, hword, hplain⟩ := hother
  have hquote := ne_quoteFor hmark s
  intro hmem
  rw [quoted_eq, List.mem_cons, List.mem_append, List.mem_singleton, insideQuotes,
    List.mem_flatMap] at hmem
  obtain hmem | ⟨c, -, hmem⟩ | hmem := hmem
  · exact hquote hmem
  · obtain h | h | h | ⟨h, hline⟩ := mem_quotedChar (quoteFor_eq s) hmem
    · exact hquote h
    · exact hslash h
    · exact absurd (hword.symm.trans h) (by simp)
    · obtain hplain | hplain := hplain
      · exact absurd (hplain.symm.trans h) (by simp)
      · exact hline hplain
  · exact hquote hmem

variable {rest : Text} (hrest : rest.head? ≠ some (quoteFor s))
include hrest

/-- The quote of a text does not stand three times in front of it. -/
theorem not_triple_quoted :
    ¬ [quoteFor s, quoteFor s, quoteFor s] <+: Text.quoted s ++ rest := by
  have hbody : QuotedBody [quoteFor s] rest (insideQuotes s) :=
    quotedBody_quotedChars (quoteFor_eq s) s rest
  have hhead := hbody.head?_ne (ne_backslash_of_isQuote (isQuote_quoteFor s))
  rw [quoted_eq, List.cons_append, List.append_assoc, List.singleton_append]
  intro hthree
  have htwo := (List.prefix_cons_inj _).1 hthree
  cases hinside : insideQuotes s with
  | nil =>
    -- the two quotes of the empty text would be followed by a third one
    rw [hinside] at htwo
    obtain ⟨t, rfl⟩ := (List.prefix_cons_inj _).1 htwo
    exact hrest rfl
  | cons c body =>
    rw [hinside] at htwo hhead
    obtain rfl : quoteFor s = c := (List.cons_prefix_cons.1 htwo).1
    exact hhead rfl

/-- A quoted text is a quoted span. -/
theorem quoted?_quoted :
    quoted? (quoteFor s) (insideQuotes s ++ [quoteFor s] ++ rest) = some (Text.quoted s, rest) := by
  have hquote := isQuote_quoteFor s
  have hone := not_triple_quoted s hrest
  refine (quoted?_eq_some_iff hquote).2 ⟨by simp [quoted_eq], ?_⟩
  exact .single hquote (.inr hone) (quotedBody_quotedChars (quoteFor_eq s) s rest)

/-- A quoted text is a string, of a single line. -/
theorem string?_quoted (marks : StringMarks) :
    string? marks (quoteFor s) (insideQuotes s ++ [quoteFor s] ++ rest) =
      some (.string marks (insideQuotes s), rest) := by
  have hone := not_triple_quoted s hrest
  have hstop : terminator (quoteFor s) (insideQuotes s ++ [quoteFor s] ++ rest) = [quoteFor s] := by
    refine terminator_of_single (.inr ?_)
    simpa [quoted_eq] using hone
  have hbody : QuotedBody [quoteFor s] rest (insideQuotes s) :=
    quotedBody_quotedChars (quoteFor_eq s) s rest
  have hfound := (untilUnescaped?_eq_some_iff (ne_backslash_of_isQuote (isQuote_quoteFor s))).2
    ⟨rfl, hbody⟩
  have hline : hasBareNewline (insideQuotes s) = false := by
    refine hasBareNewline_of_not_mem fun hmem => not_mem_quoted s (x := '\n') (by simp) ?_
    rw [quoted_eq]
    exact List.mem_cons_of_mem _ (List.mem_append_left _ hmem)
  rw [string?, hstop, List.length_singleton, List.drop_one, List.tail_cons, hfound]
  simp [hline]

end

theorem token?_quoted (s : Text) {rest : Text} (hrest : rest.head? ≠ some (quoteFor s)) :
    token? (quoteFor s) (insideQuotes s ++ [quoteFor s] ++ rest) =
      some (.string ⟨false, false, false⟩ (insideQuotes s), rest) := by
  rw [token?, if_neg, if_neg, if_pos (quoteFor_eq s), string?_quoted s hrest]
  · obtain hq | hq := quoteFor_eq s <;> rw [hq] <;> decide
  · obtain hq | hq := quoteFor_eq s <;> rw [hq] <;> simp [startsNumeral]

theorem tokensIn_token {opened : List Bracket} {c : Char} {t rest : Text} {token : Token}
    (hc : c ∉ [' ', '\t', '\x0c', '\n', '\\', '#']) (hopening : openingBracket? c = none)
    (hclosing : closingBracket? c = none) (h : token? c t = some (token, rest)) :
    tokensIn opened (c :: t) = (tokensIn opened rest).map (token :: ·) := by
  simp only [List.mem_cons, List.not_mem_nil, or_false, not_or] at hc
  obtain ⟨hspace, htab, hfeed, hnl, hslash, hcomment⟩ := hc
  rw [tokensIn, if_neg (by simp [hspace, htab, hfeed]), if_neg hnl, if_neg hslash, if_neg hcomment]
  simp only [hopening, hclosing]
  split
  · rename_i htoken
    obtain ⟨rfl, rfl⟩ := Prod.mk.inj (Option.some.inj (htoken.symm.trans h))
    rfl
  · rename_i htoken
    exact absurd (htoken.symm.trans h) (by simp)

/-- The tokens of a quoted text in the brackets around it. -/
theorem tokens?_quoted (s : Text) :
    tokens? (source (Text.quoted s)) =
      some [.opening .round, .string ⟨false, false, false⟩ (insideQuotes s), .closing .round] := by
  have hcr : '\r' ∉ Text.quoted s := not_mem_quoted s (by simp)
  have hend : tokensIn [.round] ['\n', ')'] = some [.closing .round] := by decide +kernel
  have hrest : ['\n', ')'].head? ≠ some (quoteFor s) := by
    simpa using ne_quoteFor (by decide) s
  have htoken := token?_quoted s hrest
  have hquoted : tokensIn [.round] (Text.quoted s ++ ['\n', ')']) =
      some [.string ⟨false, false, false⟩ (insideQuotes s), .closing .round] := by
    rw [quoted_eq, List.cons_append, tokensIn_token _ _ _ htoken, hend]
    · rfl
    all_goals obtain hq | hq := quoteFor_eq s <;> rw [hq] <;> decide
  rw [tokens?, source, unifyLines_eq_self hcr, List.cons_append, tokensIn, if_neg (by decide),
    if_neg (by decide), if_neg (by decide), if_neg (by decide)]
  simp only [openingBracket?]
  rw [if_pos (by decide), hquoted]
  rfl

/-! ## Strings as expressions -/

/-- Tokens that start with a string or a bracket. -/
inductive StartsAtom : List Token → Prop
  | string (marks : StringMarks) (body : Text) (ts : List Token) :
    StartsAtom (.string marks body :: ts)
  | opening (b : Bracket) (ts : List Token) : StartsAtom (.opening b :: ts)

/-- Tokens in front of which an expression ends: none, or a closing bracket. -/
inductive Ended : List Token → Prop
  | nil : Ended []
  | closing (b : Bracket) (ts : List Token) : Ended (.closing b :: ts)

section

variable {names : CharNames} {e : Expr} {ts rest : List Token} {n : Nat}

/-! An expression that is a single atom is read through all levels of operators. -/

theorem primary?_of_atom? (hrest : Ended rest) (h : atom? names (n + 1) ts = some (e, rest)) :
    primary? names (n + 2) ts = some (e, rest) := by
  rw [primary?, h]
  cases hrest <;> rfl

theorem factor?_of_primary? (hts : StartsAtom ts) (hrest : Ended rest)
    (h : primary? names n ts = some (e, rest)) : factor? names (n + 2) ts = some (e, rest) := by
  have hawaited : awaited? names (n + 1) ts = some (e, rest) := by
    cases hts <;> simpa [awaited?] using h
  cases hts <;> cases hrest <;> simp [factor?, hawaited]

theorem binary?_of_factor? (hrest : Ended rest) (h : factor? names (n + 1) ts = some (e, rest))
    (levels : List (List (String × BinaryOp))) :
    binary? names (n + levels.length + 2) levels ts = some (e, rest) := by
  induction levels with
  | nil => exact h
  | cons level levels ih =>
    change binary? names (n + levels.length + 2 + 1) (level :: levels) ts = _
    rw [binary?, ih]
    cases hrest <;> rfl

theorem inversion?_of_binary? (hts : StartsAtom ts) (hrest : Ended rest)
    (h : binary? names (n + 1) binaryLevels ts = some (e, rest)) :
    inversion? names (n + 2) ts = some (e, rest) := by
  have hmore : comparisons? names (n + 1) rest = some ([], rest) := by cases hrest <;> rfl
  cases hts <;> simp [inversion?, h, hmore]

theorem expression?_of_inversion? (hts : StartsAtom ts) (hrest : Ended rest)
    (h : inversion? names n ts = some (e, rest)) :
    expression? names (n + 3) ts = some (e, rest) := by
  have hconjunction : conjunction? names (n + 1) ts = some (e, rest) := by
    rw [conjunction?, h]
    cases hrest <;> rfl
  have hdisjunction : disjunction? names (n + 2) ts = some (e, rest) := by
    rw [disjunction?, hconjunction]
    cases hrest <;> rfl
  cases hts <;> cases hrest <;> simp [expression?, hdisjunction]

/-- An atom on its own is an expression. -/
theorem expression?_of_atom? (hts : StartsAtom ts) (hrest : Ended rest)
    (h : atom? names (n + 1) ts = some (e, rest)) :
    expression? names (n + 15) ts = some (e, rest) := by
  have hfactor := factor?_of_primary? hts hrest (primary?_of_atom? hrest h)
  have hbinary := binary?_of_factor? hrest hfactor binaryLevels
  exact expression?_of_inversion? hts hrest (inversion?_of_binary? hts hrest hbinary)

/-- A string in brackets is the text that it stands for. -/
theorem expressions?_string {marks : StringMarks} {body s : Text} (hbytes : marks.bytes = false)
    (hformat : marks.format = false) (h : bodyText? names marks.raw body = some s) :
    expressions? names (n + 35) [.opening .round, .string marks body, .closing .round] =
      some (.constant (.text s), []) := by
  have hatom : atom? names (n + 3) [.string marks body, .closing .round] =
      some (.constant (.text s), [.closing .round]) := by
    simp [atom?, strings?, hbytes, hformat, h]
  -- the string is an expression of its own in the brackets, and they are an atom again
  have hstring := expression?_of_atom? (.string ..) (.closing ..) hatom
  have hgroup : atom? names (n + 21) [.opening .round, .string marks body, .closing .round] =
      some (.constant (.text s), []) := by
    simp [atom?, group?, item?, named?, hstring, isStarred, startsClause]
  have hwhole := expression?_of_atom? (.opening ..) .nil hgroup
  rw [expressions?, hwhole]
  rfl

end

/-- The quoted form of a text, as an expression, is that text on every machine. -/
theorem compile_quoted (m : Machine) (s : Text) :
    compile m (Text.quoted s) = .ok (.constant (.text s)) := by
  have hnull : '\x00' ∉ Text.quoted s := not_mem_quoted s (by simp)
  have hgiven : m.refusal? (Text.quoted s) = none := m.refusal?_of_single (tokens?_quoted s)
  have hread : bodyText? m.character? false (insideQuotes s) = some s :=
    unescape?_quotedChars (quoteFor_eq s) s m.character?
  have hexpr : (tokens? (source (Text.quoted s))).bind
      (expressions? m.character? (parseFuel (Text.quoted s).length)) =
        some (.constant (.text s), []) := by
    rw [tokens?_quoted, Option.bind_some]
    exact expressions?_string (n := 20 * (Text.quoted s).length + 5) rfl rfl hread
  rw [compile, if_neg (by simpa using hnull)]
  simp only [hgiven, hexpr]
  rfl

end Stencil.Expr
