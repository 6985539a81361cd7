import Mathlib.Data.List.Basic
import Stencil.Expr.Numeral
import Stencil.Quote.Query

/-!
# Texts in queries

How each dialect reads a text between single quotes (`TextRule`): whether two quotes stand for one
quote, and what a backslash with the characters after it stands for. A rule documents in which ways
a character can be written (`TextRule.Writes`), and a dialect keeps to it on a text if it writes
all its characters in such ways (`Dialect.KeepsTo`). Main statements: `read_quoteValue`, what a
dialect writes for a text is read by any rule that it keeps to there as one literal, which is the
very text and ends where it was meant to; and `keepsTo_named`, the known dialects keep to their
rules on all texts, but for one of them that has a null character written in its own way.

Tables of escapes are put together from families, and so are the proofs that they keep to a rule.
-/

namespace Stencil

/-! ## Reading escapes -/

/-- An escape that gives a code point below `limit` by a mark and `width` digits of a base. -/
structure CodeEscape where
  mark : Text
  base : Nat
  width : Nat
  limit : Nat

namespace CodeEscape

/-- The code point that digits give. -/
def code (e : CodeEscape) (digits : List Nat) : Nat := digits.foldl (fun n d => e.base * n + d) 0

/-- The character that an escape at the start of a text stands for, with the rest of the text. The
backslash has been read. -/
def read? (e : CodeEscape) (s : Text) : Option (Char × Text) := do
  let s ← Text.after? e.mark s
  let digits ← (s.take e.width).mapM (Expr.baseDigit? e.base)
  let n := e.code digits
  if e.width ≤ s.length ∧ n < e.limit ∧ n.isValidChar then some (Char.ofNat n, s.drop e.width)
  else none

/-- Whether an escape can start with a character. -/
def canStart (e : CodeEscape) (c : Char) : Bool :=
  match e.mark with
  | [] => e.width = 0 || Expr.isBaseDigit e.base c
  | m :: _ => m == c

/-- Octal digits, so many of them. -/
def octal (width limit : Nat) : CodeEscape := ⟨[], 8, width, limit⟩

/-- Hexadecimal digits after a mark, so many of them. -/
def hexadecimal (mark : Char) (width limit : Nat) : CodeEscape := ⟨[mark], 16, width, limit⟩

end CodeEscape

/-- What a backslash with the characters after it stands for: a code point, of whose forms the first
that fits counts, or what a letter stands for. In a strict dialect other characters may not follow a
backslash, elsewhere they stand for themselves. -/
structure SlashRule where
  codes : List CodeEscape
  letters : List (Char × Text)
  strict : Bool

namespace SlashRule

/-- What a single character after a backslash stands for. -/
def letter? (r : SlashRule) (c : Char) : Option Text :=
  match r.letters.lookup c with
  | some t => some t
  | none => if r.strict then none else some [c]

/-- What an escape stands for, with the rest of the text. The backslash has been read. -/
def read? (r : SlashRule) (s : Text) : Option (Text × Text) :=
  match r.codes.findSome? (·.read? s) with
  | some (c, rest) => some ([c], rest)
  | none =>
    match s with
    | [] => none
    | c :: rest => (r.letter? c).map (·, rest)

end SlashRule

/-! ## Reading literals -/

/-- How a dialect reads texts: whether two quotes stand for one, and what backslashes start if they
are special. -/
structure TextRule where
  doubling : Bool
  slashes : Option SlashRule

namespace TextRule

/-- What the start of a text between quotes stands for, with the rest; nothing before the closing
quote and where no text can go on. -/
def item? (r : TextRule) : Text → Option (Text × Text)
  | [] => none
  | c :: s =>
    if c = '\'' then
      if r.doubling then (Text.after? ['\''] s).map (['\''], ·) else none
    else if c = '\\' then
      match r.slashes with
      | some slashes => slashes.read? s
      | none => some (['\\'], s)
    else some ([c], s)

/-- A text up to its closing quote, with what follows that; `fuel` bounds the number of items. -/
def body? (r : TextRule) : (fuel : Nat) → Text → Option (Text × Text)
  | 0, _ => none
  | n + 1, s =>
    match r.item? s with
    | some (piece, rest) => (r.body? n rest).map fun (body, rest) => (piece ++ body, rest)
    | none => (Text.after? ['\''] s).map ([], ·)

/-- The text literal that a query starts with, as the text it stands for and the rest of the
query. -/
def read? (r : TextRule) (s : Text) : Option (Text × Text) :=
  (Text.after? ['\''] s).bind fun s => r.body? (s.length + 1) s

/-! ## The rules of the dialects -/

/-- Two quotes stand for one, and a backslash for itself. -/
def plain : TextRule := ⟨true, none⟩

/-- The letters of the commonest control characters. -/
def controlLetters : List (Char × Text) :=
  [('b', ['\x08']), ('n', ['\n']), ('r', ['\r']), ('t', ['\t'])]

/-- The letters of the null character and the one that ends a text. Before the signs of patterns a
backslash is kept. -/
def patternLetters : List (Char × Text) :=
  [('0', ['\x00']), ('Z', ['\x1a']), ('%', ['\\', '%']), ('_', ['\\', '_'])]

/-- The letters of the bell, the form feed and the vertical tab. -/
def printerLetters : List (Char × Text) :=
  [('a', ['\x07']), ('f', ['\x0c']), ('v', ['\x0b'])]

def mysql : TextRule := ⟨true, some ⟨[], controlLetters ++ patternLetters, false⟩⟩

def bigquery : TextRule where
  doubling := false
  slashes := some {
    codes := [.octal 3 0x110000, .hexadecimal 'x' 2 0x110000, .hexadecimal 'X' 2 0x110000,
      .hexadecimal 'u' 4 0x110000, .hexadecimal 'U' 8 0x110000]
    letters := controlLetters ++ printerLetters ++
      ['\\', '?', '"', '\'', '\x60'].map fun c => (c, [c])
    strict := true }

def snowflake : TextRule where
  doubling := true
  slashes := some {
    codes := [.octal 3 0x110000, .hexadecimal 'x' 2 0x110000, .hexadecimal 'u' 4 0x110000]
    letters := controlLetters ++ [('f', ['\x0c']), ('0', ['\x00'])]
    strict := false }

/-- Three octal digits give the characters of ASCII only. -/
def spark : TextRule where
  doubling := false
  slashes := some {
    codes := [.octal 3 128, .hexadecimal 'u' 4 0x110000, .hexadecimal 'U' 8 0x110000]
    letters := controlLetters ++ patternLetters
    strict := false }

def clickhouse : TextRule where
  doubling := true
  slashes := some {
    codes := [.hexadecimal 'x' 2 128]
    letters := controlLetters ++ printerLetters ++ [('0', ['\x00'])]
    strict := false }

/-- As many digits as there are count, up to three octal or two hexadecimal ones. -/
def redshift : TextRule where
  doubling := true
  slashes := some {
    codes := [.octal 3 128, .octal 2 128, .octal 1 128, .hexadecimal 'x' 2 128,
      .hexadecimal 'x' 1 128]
    letters := controlLetters ++ [('f', ['\x0c'])]
    strict := false }

/-- The rules of the dialects by name. -/
def named : List (String × TextRule) := [
  ("", plain), ("postgres", plain), ("duckdb", plain), ("mysql", mysql), ("sqlite", plain),
  ("bigquery", bigquery), ("snowflake", snowflake), ("tsql", plain), ("spark", spark),
  ("clickhouse", clickhouse), ("oracle", plain), ("redshift", redshift)]

end TextRule

/-! ## Escapes and what follows them -/

namespace CodeEscape

variable {e : CodeEscape} {c : Char}

/-- An escape does not start where it cannot. -/
theorem read?_eq_none (h : e.canStart c = false) (s : Text) : e.read? (c :: s) = none := by
  obtain ⟨mark, base, width, limit⟩ := e
  cases mark with
  | nil =>
    simp only [canStart, Bool.or_eq_false_iff, decide_eq_false_iff_not] at h
    obtain ⟨hwidth, hdigit⟩ := h
    obtain ⟨k, rfl⟩ : ∃ k, width = k + 1 := ⟨width - 1, by omega⟩
    have hnone : Expr.baseDigit? base c = none := by simpa [Expr.isBaseDigit] using hdigit
    simp [read?, List.take_succ_cons, List.mapM_cons, hnone]
  | cons m mark =>
    have hne : m ≠ c := by simpa [canStart] using h
    simp [read?, Text.after?, hne]

/-- An escape with all its digits is read, whatever follows. -/
theorem read?_append {digits : Text} (values : List Nat) (hlen : digits.length = e.width)
    (hvalues : digits.mapM (Expr.baseDigit? e.base) = some values)
    (hcode : e.code values = c.toNat) (hlimit : c.toNat < e.limit) (rest : Text) :
    e.read? (e.mark ++ digits ++ rest) = some (c, rest) := by
  have htake : (digits ++ rest).take e.width = digits := by
    rw [← hlen, List.take_left]
  have hdrop : (digits ++ rest).drop e.width = rest := by
    rw [← hlen, List.drop_left]
  have hroom : e.width ≤ (digits ++ rest).length := by
    rw [List.length_append, hlen]
    exact Nat.le_add_right ..
  have hvalid : c.toNat.isValidChar := c.valid
  rw [read?, List.append_assoc, Text.after?_append]
  simp only [Option.bind_eq_bind, Option.bind_some, htake, hdrop, hvalues, hcode, hroom, hlimit,
    hvalid, and_self, if_true, Char.ofNat_toNat]

end CodeEscape

namespace SlashRule

variable {r : SlashRule} {c : Char}

/-- A letter that starts no code point is read alone. -/
theorem read?_letter {t : Text} (hcodes : r.codes.all (fun e => !e.canStart c) = true)
    (hletter : r.letter? c = some t) (rest : Text) : r.read? (c :: rest) = some (t, rest) := by
  have hnone : r.codes.findSome? (·.read? (c :: rest)) = none := by
    rw [List.findSome?_eq_none_iff]
    intro e he
    rw [List.all_eq_true] at hcodes
    exact CodeEscape.read?_eq_none (by simpa using hcodes e he) rest
  rw [read?, hnone, hletter]
  rfl

/-- A code point is read by the first form that can start with its first character. -/
theorem read?_code (before : List CodeEscape) {after : List CodeEscape} {e : CodeEscape}
    {x : Char} {s rest : Text} (hr : r.codes = before ++ e :: after)
    (hbefore : before.all (fun e => !e.canStart x) = true)
    (he : e.read? (x :: s) = some (c, rest)) : r.read? (x :: s) = some ([c], rest) := by
  have hnone : before.findSome? (·.read? (x :: s)) = none := by
    rw [List.findSome?_eq_none_iff]
    intro e he
    rw [List.all_eq_true] at hbefore
    exact CodeEscape.read?_eq_none (by simpa using hbefore e he) s
  have hfirst : r.codes.findSome? (·.read? (x :: s)) = some (c, rest) := by
    rw [hr, List.findSome?_append, hnone, Option.none_or, List.findSome?_cons, he]
  rw [read?, hfirst]

end SlashRule

/-! ## Documented escapes -/

/-- Digits that a form of code points takes for a character: as many as it asks for, and they give
the code point. -/
structure CodeEscape.Spells (e : CodeEscape) (digits : Text) (c : Char) : Prop where
  length_eq : digits.length = e.width
  values : ∃ values, digits.mapM (Expr.baseDigit? e.base) = some values ∧ e.code values = c.toNat
  lt_limit : c.toNat < e.limit

/-- The ways to write a character that a rule documents: as it is, if it is not special; a quote as
two quotes; as a backslash and a letter that stands for it; or as a backslash and its code point. No
form of code points that is tried before it may start like the letter or the code point. -/
inductive TextRule.Writes (r : TextRule) (c : Char) : Text → Prop
  | plain (hquote : c ≠ '\'') (hslash : c ≠ '\\' ∨ r.slashes = none) : Writes r c [c]
  | doubled (hc : c = '\'') (h : r.doubling = true) : Writes r c ['\'', '\'']
  | letter {slashes : SlashRule} {l : Char} (h : r.slashes = some slashes)
      (hletter : slashes.letter? l = some [c])
      (hcodes : slashes.codes.all (fun e => !e.canStart l) = true) : Writes r c ['\\', l]
  | code {slashes : SlashRule} {before after : List CodeEscape} {e : CodeEscape} {x : Char}
      {digits rest : Text} (h : r.slashes = some slashes)
      (hcodes : slashes.codes = before ++ e :: after) (hdigits : e.Spells digits c)
      (hstart : e.mark ++ digits = x :: rest)
      (hbefore : before.all (fun e => !e.canStart x) = true) : Writes r c ('\\' :: x :: rest)

namespace TextRule

/-- What is written for a character is read back, whatever follows. -/
def Reads (r : TextRule) (c : Char) (written : Text) : Prop :=
  ∀ rest, r.item? (written ++ rest) = some ([c], rest)

/-- After a backslash, a rule for backslashes goes on. -/
theorem item?_slash {r : TextRule} {slashes : SlashRule} (h : r.slashes = some slashes)
    (s : Text) : r.item? ('\\' :: s) = slashes.read? s := by
  simp [item?, h]

/-- What a rule documents it reads. -/
theorem Writes.reads {r : TextRule} {c : Char} {written : Text} (h : r.Writes c written) :
    r.Reads c written := by
  intro rest
  cases h with
  | plain hquote hslash =>
    rw [List.singleton_append, item?, if_neg hquote]
    split
    · rename_i hc
      obtain h | h := hslash
      · exact absurd hc h
      · rw [h, hc]
    · rfl
  | doubled hc h => simp [item?, hc, h, Text.after?]
  | letter h hletter hcodes =>
    exact (item?_slash h _).trans (SlashRule.read?_letter hcodes hletter rest)
  | code h hcodes hdigits hstart hbefore =>
    obtain ⟨hlen, ⟨values, hvalues, hcode⟩, hlimit⟩ := hdigits
    have hread := CodeEscape.read?_append values hlen hvalues hcode hlimit rest
    rw [hstart] at hread
    exact (item?_slash h _).trans (SlashRule.read?_code _ hcodes hbefore hread)

end TextRule

/-- What a table of escapes writes for a single character. -/
def Escapes.form (e : Escapes) (c : Char) : Text := (e.lookup c).getD [c]

/-- A dialect keeps to a rule on a text: it writes every character of the text in a way that the
rule documents. -/
def Dialect.KeepsTo (d : Dialect) (r : TextRule) (s : Text) : Prop :=
  ∀ c ∈ s, r.Writes c (d.textEscapes.form c)

/-! ## Written texts -/

theorem Escapes.write_cons (e : Escapes) (c : Char) (s : Text) :
    e.write (c :: s) = e.form c ++ e.write s := rfl

namespace TextRule

variable {r : TextRule} {e : Escapes}

/-- What is read back takes up some of a text. -/
theorem Reads.ne_nil {c : Char} {written : Text} (h : r.Reads c written) : written ≠ [] := by
  rintro rfl
  exact absurd (h []) (by simp [item?])

/-- A quote ends a literal unless another one follows. -/
theorem item?_quote {rest : Text} (hrest : rest.head? ≠ some '\'') :
    r.item? ('\'' :: rest) = none := by
  cases rest with
  | nil => simp [item?, Text.after?]
  | cons c rest =>
    have hc : '\'' ≠ c := fun hc => hrest (by rw [hc]; rfl)
    simp [item?, Text.after?, hc]

theorem body?_quote {rest : Text} (hrest : rest.head? ≠ some '\'') (n : Nat) :
    r.body? (n + 1) ('\'' :: rest) = some ([], rest) := by
  rw [body?, item?_quote hrest]
  simp [Text.after?]

theorem body?_item {s piece rest body rest' : Text} {n : Nat} (h : r.item? s = some (piece, rest))
    (hbody : r.body? n rest = some (body, rest')) :
    r.body? (n + 1) s = some (piece ++ body, rest') := by
  rw [body?, h]
  simp [hbody]

/-- A text whose characters are all read back is read back as a whole, up to the closing quote. -/
theorem body?_write {s rest : Text} (h : ∀ c ∈ s, r.Reads c (e.form c))
    (hrest : rest.head? ≠ some '\'') {n : Nat} (hn : (e.write s).length < n) :
    r.body? n (e.write s ++ '\'' :: rest) = some (s, rest) := by
  induction s generalizing n with
  | nil =>
    obtain ⟨n, rfl⟩ : ∃ m, n = m + 1 := ⟨n - 1, by omega⟩
    exact body?_quote hrest n
  | cons c s ih =>
    obtain ⟨n, rfl⟩ : ∃ m, n = m + 1 := ⟨n - 1, by omega⟩
    have hc := h c (List.mem_cons_self ..)
    have hpos := List.length_pos_iff.2 hc.ne_nil
    rw [Escapes.write_cons, List.length_append] at hn
    rw [Escapes.write_cons, List.append_assoc]
    exact body?_item (hc _) (ih (fun x hx => h x (List.mem_cons_of_mem c hx)) (by omega))

/-- A literal whose characters are all read back is read back. -/
theorem read?_writeText {d : Dialect} {s rest : Text}
    (h : ∀ c ∈ s, r.Reads c (d.textEscapes.form c)) (hrest : rest.head? ≠ some '\'') :
    r.read? (d.writeText s ++ rest) = some (s, rest) := by
  have hsplit : d.writeText s ++ rest = ['\''] ++ (d.textEscapes.write s ++ '\'' :: rest) := by
    simp [Dialect.writeText]
  rw [read?, hsplit, Text.after?_append, Option.bind_some]
  exact body?_write h hrest (by rw [List.length_append]; omega)

end TextRule

/-! ## Tables of escapes -/

/-- The digits of the code point of a character, with zeros in front up to a width. -/
def codeDigits (base width : Nat) (c : Char) : Text :=
  let digits := Number.natText base c.toNat
  List.replicate (width - digits.length) '0' ++ digits

/-- Whether a form spells a character by the digits of its code point, and none of the forms before
it can start with them. -/
def CodeEscape.writtenFor (e : CodeEscape) (before : List CodeEscape) (c : Char) : Bool :=
  let digits := codeDigits e.base e.width c
  match e.mark ++ digits, digits.mapM (Expr.baseDigit? e.base) with
  | x :: _, some values =>
    before.all (fun e => !e.canStart x) && digits.length == e.width && e.code values == c.toNat &&
      decide (c.toNat < e.limit)
  | _, _ => false

/-- A table of escapes keeps to a rule: all that it writes is documented. -/
def Escapes.KeepTo (e : Escapes) (r : TextRule) : Prop := ∀ p ∈ e, r.Writes p.1 p.2

namespace Escapes.KeepTo

variable {r : TextRule} {slashes : SlashRule} {e e' : Escapes}

theorem append (h : e.KeepTo r) (h' : e'.KeepTo r) : KeepTo (e ++ e') r := by
  intro p hp
  obtain hp | hp := List.mem_append.1 hp
  · exact h p hp
  · exact h' p hp

theorem doubled (h : r.doubling = true) : KeepTo (Dialect.doubled '\'') r := by
  intro p hp
  obtain rfl := List.mem_singleton.1 hp
  exact .doubled rfl h

/-- Letters are documented if they stand for what they are written for and start no code point. -/
theorem lettered (letters : List (Char × Char)) (h : r.slashes = some slashes)
    (hletters : letters.all (fun (c, l) => slashes.codes.all (fun e => !e.canStart l) &&
      decide (slashes.letter? l = some [c])) = true) :
    KeepTo (Dialect.lettered letters) r := by
  intro p hp
  obtain ⟨⟨c, l⟩, hmem, rfl⟩ := List.mem_map.1 hp
  have hl := List.all_eq_true.1 hletters _ hmem
  rw [Bool.and_eq_true, decide_eq_true_eq] at hl
  exact .letter h hl.2 hl.1

/-- Code points of control characters are documented if they have the digits of the first form that
can start with them. -/
theorem numbered (form : CodeEscape) (before : List CodeEscape) {after : List CodeEscape}
    (h : r.slashes = some slashes) (hcodes : slashes.codes = before ++ form :: after)
    (hform : Dialect.controlCharacters.all (form.writtenFor before) = true) :
    KeepTo (Dialect.numbered form.mark form.base form.width) r := by
  intro p hp
  obtain ⟨c, hmem, rfl⟩ := List.mem_map.1 hp
  have hwritten : '\\' :: form.mark ++ List.replicate
      (form.width - (Number.natText form.base c.toNat).length) '0' ++
      Number.natText form.base c.toNat =
      '\\' :: (form.mark ++ codeDigits form.base form.width c) := by
    simp [codeDigits]
  have hc := List.all_eq_true.1 hform c hmem
  rw [CodeEscape.writtenFor] at hc
  split at hc
  · rename_i x s values hstart hvalues
    simp only [Bool.and_eq_true, beq_iff_eq, decide_eq_true_eq] at hc
    obtain ⟨⟨⟨hbefore, hlen⟩, hcode⟩, hlimit⟩ := hc
    have hwrites : r.Writes c ('\\' :: x :: s) :=
      .code h hcodes ⟨hlen, ⟨values, hvalues, hcode⟩, hlimit⟩ hstart hbefore
    rw [← hstart, ← hwritten] at hwrites
    exact hwrites
  · exact absurd hc (by simp)

end Escapes.KeepTo

/-- A character is written as documented if its escape is, and if all special characters have
escapes. -/
theorem TextRule.writes_form {r : TextRule} {e : Escapes} {c : Char}
    (h : ∀ t, (c, t) ∈ e → r.Writes c t) (hquote : (e.lookup '\'').isSome = true)
    (hslash : r.slashes = none ∨ (e.lookup '\\').isSome = true) : r.Writes c (e.form c) := by
  rw [Escapes.form]
  cases ht : e.lookup c with
  | some t =>
    obtain ⟨l₁, l₂, rfl, -⟩ := List.lookup_eq_some_iff.1 ht
    exact h t (List.mem_append_right l₁ (List.mem_cons_self ..))
  | none =>
    refine .plain ?_ ?_
    · rintro rfl
      rw [ht] at hquote
      exact absurd hquote (by simp)
    · refine hslash.symm.imp (fun hslash => ?_) id
      rintro rfl
      rw [ht] at hslash
      exact absurd hslash (by simp)

/-! ## The dialects -/

section

open Dialect

theorem keepTo_standard : (doubled '\'').KeepTo .plain := .doubled rfl

theorem keepTo_mysql : mysql.textEscapes.KeepTo .mysql :=
  Escapes.KeepTo.append (.append (.doubled rfl) (.lettered _ rfl (by decide)))
    (.lettered _ rfl (by decide))

theorem keepsTo_mysql (s : Text) : mysql.KeepsTo .mysql s := fun _ _ =>
  TextRule.writes_form (fun _ ht => keepTo_mysql _ ht) (by decide) (.inr (by decide))

theorem keepTo_bigquery : bigquery.textEscapes.KeepTo .bigquery :=
  .append (.append (.append (.lettered [('\'', '\'')] rfl (by decide))
    (.lettered _ rfl (by decide))) (.lettered _ rfl (by decide)))
    (.numbered (.hexadecimal 'x' 2 0x110000) [.octal 3 0x110000] rfl rfl (by decide))

theorem keepTo_snowflake : snowflake.textEscapes.KeepTo .snowflake :=
  .append (.append (.append (.lettered [('\'', '\'')] rfl (by decide))
    (.lettered _ rfl (by decide))) (.lettered _ rfl (by decide)))
    (.numbered (.hexadecimal 'x' 2 0x110000) [.octal 3 0x110000] rfl rfl (by decide))

theorem keepTo_clickhouse : clickhouse.textEscapes.KeepTo .clickhouse :=
  .append (.append (.append (.append (.doubled rfl) (.lettered _ rfl (by decide)))
    (.lettered _ rfl (by decide))) (.lettered _ rfl (by decide)))
    (.numbered (.hexadecimal 'x' 2 128) [] rfl rfl (by decide))

theorem keepTo_redshift : redshift.textEscapes.KeepTo .redshift :=
  .append (.append (.append (.lettered [('\'', '\'')] rfl (by decide))
    (.lettered _ rfl (by decide))) (.lettered _ rfl (by decide)))
    (.numbered (.octal 3 128) [] rfl rfl (by decide))

/-- Of the escapes of this dialect only that of the null character is not documented, as octal
digits can follow it. -/
theorem writes_spark {c : Char} {t : Text} (h : (c, t) ∈ spark.textEscapes) (hc : c ≠ '\x00') :
    TextRule.spark.Writes c t := by
  have hmem : (c, t) ∈ slashed '\'' ++ control ∨ (c, t) ∈ textEnds ∨ (c, t) ∈ octal := by
    simpa only [spark, List.mem_append, or_assoc] using h
  obtain h | h | h := hmem
  · exact Escapes.KeepTo.append (.lettered [('\'', '\'')] rfl (by decide))
      (.lettered _ rfl (by decide)) _ h
  · obtain h | h := List.mem_cons.1 h
    · exact absurd (congrArg Prod.fst h) hc
    · exact Escapes.KeepTo.lettered [('\x1a', 'Z')] rfl (by decide) _ h
  · exact Escapes.KeepTo.numbered (.octal 3 128) [] rfl rfl (by decide) _ h

end

/-- The dialects keep to their rules, apart from the null character of one dialect. -/
theorem keepsTo_named {name : String} {d : Dialect} (h : (name, d) ∈ Dialect.named) :
    ∃ rule, TextRule.named.lookup name = some rule ∧
      ∀ s : Text, (name = "spark" → '\x00' ∉ s) → d.KeepsTo rule s := by
  have hplain (s : Text) (c : Char) (_ : c ∈ s) :
      TextRule.plain.Writes c ((Dialect.doubled '\'').form c) :=
    TextRule.writes_form (fun t ht => keepTo_standard _ ht) rfl (.inl rfl)
  simp only [Dialect.named, List.mem_cons, Prod.mk.injEq, List.not_mem_nil, or_false] at h
  obtain ⟨rfl, rfl⟩ | ⟨rfl, rfl⟩ | ⟨rfl, rfl⟩ | ⟨rfl, rfl⟩ | ⟨rfl, rfl⟩ | ⟨rfl, rfl⟩ |
    ⟨rfl, rfl⟩ | ⟨rfl, rfl⟩ | ⟨rfl, rfl⟩ | ⟨rfl, rfl⟩ | ⟨rfl, rfl⟩ | ⟨rfl, rfl⟩ := h
  · exact ⟨_, rfl, fun s _ => hplain s⟩
  · exact ⟨_, rfl, fun s _ => hplain s⟩
  · exact ⟨_, rfl, fun s _ => hplain s⟩
  · exact ⟨_, rfl, fun s _ => keepsTo_mysql s⟩
  · exact ⟨_, rfl, fun s _ => hplain s⟩
  · exact ⟨_, rfl, fun _ _ _ _ =>
      TextRule.writes_form (fun t ht => keepTo_bigquery _ ht) (by decide) (.inr (by decide))⟩
  · exact ⟨_, rfl, fun _ _ _ _ =>
      TextRule.writes_form (fun t ht => keepTo_snowflake _ ht) (by decide) (.inr (by decide))⟩
  · exact ⟨_, rfl, fun s _ => hplain s⟩
  · refine ⟨_, rfl, fun s hnull c hmem => ?_⟩
    have hc : c ≠ '\x00' := fun hc => hnull rfl (hc ▸ hmem)
    exact TextRule.writes_form (fun t ht => writes_spark ht hc) (by decide) (.inr (by decide))
  · exact ⟨_, rfl, fun _ _ _ _ =>
      TextRule.writes_form (fun t ht => keepTo_clickhouse _ ht) (by decide) (.inr (by decide))⟩
  · exact ⟨_, rfl, fun s _ => hplain s⟩
  · exact ⟨_, rfl, fun _ _ _ _ =>
      TextRule.writes_form (fun t ht => keepTo_redshift _ ht) (by decide) (.inr (by decide))⟩

/-! ## Quoted texts -/

/-- What a dialect writes for a text is read as one literal by any rule that the dialect keeps to
there. It stands for that very text and ends where it was meant to, whatever follows but a further
quote. -/
theorem read_quoteValue {d : Dialect} {rule : TextRule} {s rest : Text} (h : d.KeepsTo rule s)
    (hrest : rest.head? ≠ some '\'') :
    ∃ written, d.quoteValue (.text s) = .ok written ∧
      rule.read? (written ++ rest) = some (s, rest) := by
  have hreads : ∀ c ∈ s, rule.Reads c (d.textEscapes.form c) := fun c hc => (h c hc).reads
  exact ⟨_, rfl, TextRule.read?_writeText hreads hrest⟩

/-- Quotes, backslashes and a line break, with a comment after the literal. -/
theorem read_quoteValue_quoted_backslash :
    let s := "\\'\n' OR 1=1".toList
    Dialect.mysql.KeepsTo .mysql s ∧ (" --".toList).head? ≠ some '\'' ∧
      ∃ written, Dialect.mysql.quoteValue (.text s) = .ok written ∧
        TextRule.mysql.read? (written ++ " --".toList) = some (s, " --".toList) := by
  intro s
  have hrest : (" --".toList).head? ≠ some '\'' := by decide
  exact ⟨keepsTo_mysql s, hrest, read_quoteValue (keepsTo_mysql s) hrest⟩

end Stencil
