import Stencil.Text.Utf8

/-!
# Texts and their bytes

Reading bytes gives a text if and only if they are the bytes of that text in UTF-8
(`ofUtf8?_eq_some_iff`): each character is read back from its bytes, and no other bytes are read.
-/

namespace Stencil.Text

/-! ## Code points -/

theorem toNat_ofNat {n : Nat} (h : n.isValidChar) : (Char.ofNat n).toNat = n := by
  rw [Char.ofNat, dif_pos h]
  rfl

/-- The character that is made of a code point has that code point, which is not too small. -/
theorem charFrom?_eq_some_iff {least n : Nat} {c : Char} :
    charFrom? least n = some c ↔ least ≤ n ∧ c.toNat = n := by
  rw [charFrom?]
  constructor
  · intro h
    split at h
    case isTrue hvalid =>
      obtain rfl := Option.some.inj h
      exact ⟨hvalid.1, toNat_ofNat hvalid.2⟩
    case isFalse => exact absurd h (by simp)
  · rintro ⟨hleast, rfl⟩
    have hvalid : c.toNat.isValidChar := c.valid
    rw [if_pos ⟨hleast, hvalid⟩, Char.ofNat_toNat]

/-! ## Bytes -/

theorem eq_ofNat {b : UInt8} {n : Nat} (h : b.toNat = n) : b = UInt8.ofNat n := by
  rw [← h, UInt8.ofNat_toNat]

theorem toNat_ofNat_byte {n : Nat} (h : n < 256) : (UInt8.ofNat n).toNat = n := by
  rw [UInt8.toNat_ofNat']
  omega

theorem isContinuation_iff {b : UInt8} :
    isContinuation b = true ↔ 0x80 ≤ b.toNat ∧ b.toNat < 0xC0 := by
  rw [isContinuation, Bool.and_eq_true, decide_eq_true_iff, decide_eq_true_iff,
    UInt8.le_iff_toNat_le, UInt8.lt_iff_toNat_lt]
  rfl

/-! ## One character -/

/-- How a character is spelled: in one byte, or in a first byte and up to three that continue it. No
shorter spelling would do. -/
inductive Spells (c : Char) : List UInt8 → Prop
  | one {a : UInt8} (ha : a.toNat < 0x80) (hc : c.toNat = a.toNat) : Spells c [a]
  | two {a b : UInt8} (ha : 0xC0 ≤ a.toNat ∧ a.toNat < 0xE0) (hb : isContinuation b = true)
      (hleast : 0x80 ≤ c.toNat) (hc : c.toNat = joinBits (a.toNat - 0xC0) [b]) : Spells c [a, b]
  | three {a b b' : UInt8} (ha : 0xE0 ≤ a.toNat ∧ a.toNat < 0xF0)
      (hb : isContinuation b = true) (hb' : isContinuation b' = true) (hleast : 0x800 ≤ c.toNat)
      (hc : c.toNat = joinBits (a.toNat - 0xE0) [b, b']) : Spells c [a, b, b']
  | four {a b b' b'' : UInt8} (ha : 0xF0 ≤ a.toNat ∧ a.toNat < 0xF8) (hb : isContinuation b = true)
      (hb' : isContinuation b' = true) (hb'' : isContinuation b'' = true)
      (hleast : 0x10000 ≤ c.toNat) (hc : c.toNat = joinBits (a.toNat - 0xF0) [b, b', b'']) :
      Spells c [a, b, b', b'']

theorem encode_eq (c : Char) : String.utf8EncodeChar c =
    if c.toNat ≤ 0x7F then [UInt8.ofNat c.toNat]
    else if c.toNat ≤ 0x7FF then
      [UInt8.ofNat (c.toNat / 64 % 32 + 0xC0), UInt8.ofNat (c.toNat % 64 + 0x80)]
    else if c.toNat ≤ 0xFFFF then
      [UInt8.ofNat (c.toNat / 4096 % 16 + 0xE0), UInt8.ofNat (c.toNat / 64 % 64 + 0x80),
        UInt8.ofNat (c.toNat % 64 + 0x80)]
    else
      [UInt8.ofNat (c.toNat / 262144 % 8 + 0xF0), UInt8.ofNat (c.toNat / 4096 % 64 + 0x80),
        UInt8.ofNat (c.toNat / 64 % 64 + 0x80), UInt8.ofNat (c.toNat % 64 + 0x80)] := rfl

theorem toNat_lt (c : Char) : c.toNat < 0x110000 := by
  have hvalid : c.toNat.isValidChar := c.valid
  unfold Nat.isValidChar at hvalid
  omega

section

variable {c : Char} {bytes : List UInt8}

theorem Spells.eq_encode (h : Spells c bytes) : bytes = String.utf8EncodeChar c := by
  have hlimit := toNat_lt c
  rw [encode_eq]
  cases h with
  | one ha hc => rw [if_pos (by omega), hc, UInt8.ofNat_toNat]
  | two ha hb hleast hc =>
    rw [isContinuation_iff] at hb
    simp only [joinBits, List.foldl] at hc
    rw [if_neg (by omega), if_pos (by omega), ← eq_ofNat, ← eq_ofNat]
    · omega
    · omega
  | three ha hb hb' hleast hc =>
    rw [isContinuation_iff] at hb hb'
    simp only [joinBits, List.foldl] at hc
    rw [if_neg (by omega), if_neg (by omega), if_pos (by omega), ← eq_ofNat, ← eq_ofNat,
      ← eq_ofNat]
    · omega
    · omega
    · omega
  | four ha hb hb' hb'' hleast hc =>
    rw [isContinuation_iff] at hb hb' hb''
    simp only [joinBits, List.foldl] at hc
    rw [if_neg (by omega), if_neg (by omega), if_neg (by omega), ← eq_ofNat, ← eq_ofNat,
      ← eq_ofNat, ← eq_ofNat]
    · omega
    · omega
    · omega
    · omega

theorem spells_encode (c : Char) : Spells c (String.utf8EncodeChar c) := by
  have hlimit := toNat_lt c
  -- six bits with the mark of a byte that continues a character
  have hcontinues (n : Nat) : isContinuation (UInt8.ofNat (n % 64 + 0x80)) = true ∧
      (UInt8.ofNat (n % 64 + 0x80)).toNat = n % 64 + 0x80 := by
    have hn : (UInt8.ofNat (n % 64 + 0x80)).toNat = n % 64 + 0x80 := toNat_ofNat_byte (by omega)
    exact ⟨isContinuation_iff.2 (by omega), hn⟩
  obtain ⟨hlast, hlast'⟩ := hcontinues c.toNat
  obtain ⟨hmiddle, hmiddle'⟩ := hcontinues (c.toNat / 64)
  obtain ⟨hearly, hearly'⟩ := hcontinues (c.toNat / 4096)
  rw [encode_eq]
  split
  case isTrue h =>
    have ha := toNat_ofNat_byte (n := c.toNat) (by omega)
    exact .one (by omega) ha.symm
  split
  case isTrue h =>
    have ha := toNat_ofNat_byte (n := c.toNat / 64 % 32 + 0xC0) (by omega)
    refine .two (by omega) hlast (by omega) ?_
    simp only [joinBits, List.foldl, ha, hlast']
    omega
  split
  case isTrue h =>
    have ha := toNat_ofNat_byte (n := c.toNat / 4096 % 16 + 0xE0) (by omega)
    refine .three (by omega) hmiddle hlast (by omega) ?_
    simp only [joinBits, List.foldl, ha, hmiddle', hlast']
    omega
  case isFalse h =>
    have ha := toNat_ofNat_byte (n := c.toNat / 262144 % 8 + 0xF0) (by omega)
    refine .four (by omega) hearly hmiddle hlast (by omega) ?_
    simp only [joinBits, List.foldl, ha, hearly', hmiddle', hlast']
    omega

/-- A character is read from its spelling, whatever follows. -/
theorem ofUtf8?_append (h : Spells c bytes) (s : List UInt8) :
    ofUtf8? (bytes ++ s) = (ofUtf8? s).map (c :: ·) := by
  have hmap (r : Option Text) : (do let c ← some c; return c :: (← r)) = r.map (c :: ·) := by
    cases r <;> rfl
  have hread {least n : Nat} (hleast : least ≤ c.toNat) (hc : c.toNat = n) :
      charFrom? least n = some c :=
    charFrom?_eq_some_iff.2 ⟨hc ▸ hleast, hc⟩
  have hlt {a : UInt8} {n : UInt8} (h : a.toNat < n.toNat) : a < n := UInt8.lt_iff_toNat_lt.2 h
  have hge {a : UInt8} {n : UInt8} (h : n.toNat ≤ a.toNat) : ¬ a < n := fun hc =>
    absurd (UInt8.lt_iff_toNat_lt.1 hc) (Nat.not_lt.2 h)
  rw [← hmap]
  cases h with
  | @one a ha hc =>
    rw [List.singleton_append, ofUtf8?.eq_def (a :: s)]
    simp only [if_pos (hlt (n := 0x80) ha), hread (Nat.zero_le _) hc]
  | @two a b ha hb hleast hc =>
    have hlong : ¬ a < 0x80 := hge (Nat.le_trans (by decide) ha.1)
    have hsize : a < 0xE0 := hlt ha.2
    rw [List.cons_append, List.singleton_append, ofUtf8?.eq_def]
    simp only [if_neg hlong, if_pos hsize, hb, if_true, hread hleast hc]
  | @three a b b' ha hb hb' hleast hc =>
    have hlong : ¬ a < 0x80 := hge (Nat.le_trans (by decide) ha.1)
    have hlong' : ¬ a < 0xE0 := hge ha.1
    have hsize : a < 0xF0 := hlt ha.2
    rw [List.cons_append, List.cons_append, List.singleton_append, ofUtf8?.eq_def]
    simp only [if_neg hlong, if_neg hlong', if_pos hsize, hb, hb', Bool.and_self, if_true,
      hread hleast hc]
  | @four a b b' b'' ha hb hb' hb'' hleast hc =>
    have hlong : ¬ a < 0x80 := hge (Nat.le_trans (by decide) ha.1)
    have hlong' : ¬ a < 0xE0 := hge (Nat.le_trans (by decide) ha.1)
    have hlong'' : ¬ a < 0xF0 := hge ha.1
    have hsize : a < 0xF8 := hlt ha.2
    rw [List.cons_append, List.cons_append, List.cons_append, List.singleton_append,
      ofUtf8?.eq_def]
    simp only [if_neg hlong, if_neg hlong', if_neg hlong'', if_pos hsize, hb, hb', hb'',
      Bool.and_self, if_true, hread hleast hc]

end

/-! ## Texts -/

/-- A text that starts with the character of a code point has the rest after it. -/
theorem eq_cons_of_charFrom? {least n : Nat} {r : Option Text} {t : Text}
    (h : (do let c ← charFrom? least n; return c :: (← r)) = some t) :
    ∃ c u, least ≤ n ∧ c.toNat = n ∧ r = some u ∧ t = c :: u := by
  obtain ⟨c, hc, h⟩ := Option.bind_eq_some_iff.1 h
  obtain ⟨u, hu, h⟩ := Option.bind_eq_some_iff.1 h
  obtain ⟨hleast, hn⟩ := charFrom?_eq_some_iff.1 hc
  exact ⟨c, u, hleast, hn, hu, (Option.some.inj h).symm⟩

/-- Bytes are read as a text if and only if they are its bytes. -/
theorem ofUtf8?_eq_some_iff {bytes : List UInt8} {t : Text} :
    ofUtf8? bytes = some t ↔ bytes = t.flatMap String.utf8EncodeChar := by
  constructor
  · intro h
    have hlt {a n : UInt8} (h : a < n) : a.toNat < n.toNat := UInt8.lt_iff_toNat_lt.1 h
    have hge {a n : UInt8} (h : ¬ a < n) : n.toNat ≤ a.toNat :=
      Nat.not_lt.1 fun hc => h (UInt8.lt_iff_toNat_lt.2 hc)
    fun_induction ofUtf8? bytes generalizing t with
    | case1 =>
      obtain rfl := Option.some.inj h
      rfl
    | case2 a s ha ih =>
      obtain ⟨c, u, hleast, hn, hu, rfl⟩ := eq_cons_of_charFrom? h
      have hspells : Spells c [a] := .one (hlt ha) hn
      rw [List.flatMap_cons, ← hspells.eq_encode, ← ih hu, List.singleton_append]
    | case3 a hlong ha b s hb ih =>
      obtain ⟨c, u, hleast, hn, hu, rfl⟩ := eq_cons_of_charFrom? h
      -- from a lower first byte the code point would be too small for two bytes
      have hfirst : 0xC0 ≤ a.toNat := by
        have := isContinuation_iff.1 hb
        simp only [joinBits, List.foldl] at hleast
        omega
      have hspells : Spells c [a, b] := .two ⟨hfirst, hlt ha⟩ hb (hn ▸ hleast) hn
      rw [List.flatMap_cons, ← hspells.eq_encode, ← ih hu, List.cons_append, List.singleton_append]
    | case6 a hlong hlong' ha b b' s hb ih =>
      obtain ⟨c, u, hleast, hn, hu, rfl⟩ := eq_cons_of_charFrom? h
      obtain ⟨hb, hb'⟩ := Bool.and_eq_true_iff.1 hb
      have hspells : Spells c [a, b, b'] :=
        .three ⟨hge hlong', hlt ha⟩ hb hb' (hn ▸ hleast) hn
      rw [List.flatMap_cons, ← hspells.eq_encode, ← ih hu, List.cons_append, List.cons_append,
        List.singleton_append]
    | case9 a hlong hlong' hlong'' ha b b' b'' s hb ih =>
      obtain ⟨c, u, hleast, hn, hu, rfl⟩ := eq_cons_of_charFrom? h
      obtain ⟨hb, hb''⟩ := Bool.and_eq_true_iff.1 hb
      obtain ⟨hb, hb'⟩ := Bool.and_eq_true_iff.1 hb
      have hspells : Spells c [a, b, b', b''] :=
        .four ⟨hge hlong'', hlt ha⟩ hb hb' hb'' (hn ▸ hleast) hn
      rw [List.flatMap_cons, ← hspells.eq_encode, ← ih hu, List.cons_append, List.cons_append,
        List.cons_append, List.singleton_append]
    | _ => exact absurd h (by simp)
  · rintro rfl
    induction t with
    | nil => rfl
    | cons c t ih => rw [List.flatMap_cons, ofUtf8?_append (spells_encode c), ih, Option.map_some]

end Stencil.Text
