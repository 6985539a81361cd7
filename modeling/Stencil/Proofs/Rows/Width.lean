import Mathlib.Algebra.Order.Floor.Ring
import Mathlib.Data.Rat.Floor
import Mathlib.Tactic.FieldSimp
import Mathlib.Tactic.Linarith
import Stencil.Proofs.Render.Rows

/-!
# Joined texts and their widths

The elements of a value are joined into one text (`IsJoined`), which a width may limit. A width
stands for a number (`Value.Limits`), and a text that is longer is cut to fit together with three
dots (`truncateTo_eq`). Main statement: `collapse_within`, what is joined under a width is what is
joined without one, or as much of its beginning as the width leaves room for.
-/

namespace Stencil

/-! ## Numbers -/

namespace Number

theorem twos_pos (k : Nat) : 0 < twos k := Nat.pow_pos (by decide)

theorem twos_cast (k : Nat) : (twos k : ℚ) = 2 ^ k := by
  rw [twos, Nat.pow_eq]
  push_cast
  rfl

/-- A binary number is the quotient that it is taken apart into. -/
theorem binaryRatio_cast (m : Nat) (q : Int) :
    ((binaryRatio m q).1 : ℚ) / (binaryRatio m q).2 = m * 2 ^ q := by
  have hratio : binaryRatio m q = (m * twos q.toNat, twos (-q).toNat) := rfl
  rw [hratio]
  push_cast [twos_cast]
  obtain ⟨n, rfl | rfl⟩ := q.eq_nat_or_neg
  · simp
  · simp [zpow_neg, div_eq_mul_inv]

theorem binaryRatio_pos (m : Nat) (q : Int) : 0 < (binaryRatio m q).2 := twos_pos _

/-- The number with the given parts. -/
def signedValue (negative : Bool) (m : Nat) (q : Int) : ℚ :=
  if negative then -((m : ℚ) * 2 ^ q) else (m : ℚ) * 2 ^ q

/-- Towards zero is down, for a number that is not negative. -/
theorem truncate_eq_floor {negative : Bool} {m : Nat} {q : Int}
    (h : 0 ≤ signedValue negative m q) : truncate m q negative = ⌊signedValue negative m q⌋ := by
  cases negative with
  | false =>
    have hvalue : signedValue false m q = (m : ℚ) * 2 ^ q := rfl
    rw [hvalue, ← binaryRatio_cast, Rat.floor_natCast_div_natCast]
    rfl
  | true =>
    have hvalue : signedValue true m q = -((m : ℚ) * 2 ^ q) := rfl
    have hpower : (0 : ℚ) < 2 ^ q := zpow_pos (by norm_num) q
    have hzero : (m : ℚ) = 0 := by
      have hm : (0 : ℚ) ≤ m := Nat.cast_nonneg m
      rw [hvalue] at h
      nlinarith
    obtain rfl : m = 0 := by exact_mod_cast hzero
    simp [hvalue, truncate, binaryRatio]

end Number

/-! ## Widths -/

/-- The number that a width stands for: that of a finite floating-point number, or an integer that
can be converted to one. -/
inductive Value.Limits : Value → ℚ → Prop
  | float {x : Float} {mark m : Nat} {q : Int} {negative : Bool}
      (h : Number.parts x = .finite negative m q) :
      Limits (.float x mark) (Number.signedValue negative m q)
  | whole {v : Value} {i : Int} {x : Float} {m : Nat} {q : Int} {negative : Bool}
      (hv : v.int? = some i) (hx : floatOfInt i = .ok x)
      (h : Number.parts x = .finite negative m q) : Limits v i

/-- A value that is an integer is one, or a truth value that stands for one. -/
theorem Value.int?_eq_some_iff {v : Value} {i : Int} :
    v.int? = some i ↔ v = .int i ∨ ∃ b, v = .bool b ∧ i = if b then 1 else 0 := by
  cases v <;> simp [int?, eq_comm]

theorem Magnitude.order_whole_eq_gt_iff {n b : Nat} {a : Int} (hb : 0 < b) :
    (finite n 1).order (finite a b) = some .gt ↔ (a : ℚ) / b < n := by
  have hb' : (0 : ℚ) < b := by exact_mod_cast hb
  rw [div_lt_iff₀ hb', order, Option.some_inj, compare_gt_iff_gt]
  constructor
  · intro h
    have h' : ((a * 1 : Int) : ℚ) < ((n * b : Int) : ℚ) := by exact_mod_cast h
    simpa using h'
  · intro h
    have h' : ((a * 1 : Int) : ℚ) < ((n * b : Int) : ℚ) := by simpa using h
    exact_mod_cast h'

namespace Value.Limits

variable {width : Value} {w : ℚ}

/-- A width leaves room for as many characters as the number that it stands for has in full. -/
theorem finiteWidth?_eq (h : width.Limits w) (h0 : 0 ≤ w) :
    finiteWidth? width = .ok (some ⌊w⌋) := by
  cases h with
  | float hparts =>
    rw [finiteWidth?, hparts, ← Number.truncate_eq_floor h0]
  | @whole v i x m q negative hv hx hparts =>
    obtain rfl | ⟨b, rfl, rfl⟩ := Value.int?_eq_some_iff.1 hv
    · have htoFloat : (Value.int i).toFloat
          ("must be real number, not " ++ (Value.int i).typeName) = .ok x := hx
      simp only [finiteWidth?, htoFloat, bind, Except.bind, hparts, Int.floor_intCast]
      rfl
    · cases b <;> rfl

/-- A text is longer than a width if its length is greater than the number. -/
theorem order_eq_gt_iff (h : width.Limits w) :
    ∃ limit, width.magnitude? = some limit ∧
      ∀ n : Nat, (Magnitude.finite n 1).order limit = some .gt ↔ w < n := by
  cases h with
  | @float x mark m q negative hparts =>
    refine ⟨.ofFloat x, rfl, fun n => ?_⟩
    have hlimit : Magnitude.ofFloat x = .finite
        (if negative then -((Number.binaryRatio m q).1 : Int) else (Number.binaryRatio m q).1)
        (Number.binaryRatio m q).2 := by
      rw [Magnitude.ofFloat, hparts]
    rw [hlimit, Magnitude.order_whole_eq_gt_iff (Number.binaryRatio_pos m q)]
    cases negative
    · simp [Number.signedValue, ← Number.binaryRatio_cast]
    · simp [Number.signedValue, ← Number.binaryRatio_cast, neg_div]
  | @whole v i x m q negative hv hx hparts =>
    refine ⟨.finite i 1, ?_, fun n => ?_⟩
    · obtain rfl | ⟨b, rfl, rfl⟩ := Value.int?_eq_some_iff.1 hv <;> rfl
    · rw [Magnitude.order_whole_eq_gt_iff (by decide)]
      simp

/-- A text that is longer than a width is cut to it, three dots included. -/
theorem truncateTo_eq (h : width.Limits w) (h0 : 0 ≤ w) (s : Text) :
    truncateTo width s =
      .ok (if w < s.length then s.take (⌊w⌋ - 3).toNat ++ ['.', '.', '.'] else s) := by
  obtain ⟨limit, hlimit, horder⟩ := h.order_eq_gt_iff
  have hlength : (Value.int s.length).magnitude? = some (.finite s.length 1) := rfl
  rw [truncateTo, h.finiteWidth?_eq h0]
  simp only [bind, Except.bind, hlength, hlimit, horder]
  split <;> rfl

/-- What is cut leaves room for three dots, and a width below three is exceeded by them alone. -/
theorem length_take_le (h0 : 0 ≤ w) {s : Text} (hs : w < s.length) :
    ((s.take (⌊w⌋ - 3).toNat ++ ['.', '.', '.']).length : ℚ) ≤ max w 3 ∧
      (3 ≤ w → ((s.take (⌊w⌋ - 3).toNat).length : Int) = ⌊w⌋ - 3) := by
  have hfloor : (⌊w⌋ : ℚ) ≤ w := Int.floor_le w
  have hshort : ⌊w⌋ < s.length := by
    have hcast : (⌊w⌋ : ℚ) < (s.length : Int) := by
      push_cast
      linarith
    exact_mod_cast hcast
  have hnonneg : 0 ≤ ⌊w⌋ := Int.floor_nonneg.2 h0
  have hlength : (s.take (⌊w⌋ - 3).toNat).length = (⌊w⌋ - 3).toNat := by
    rw [List.length_take]
    omega
  constructor
  · rw [List.length_append, hlength]
    obtain hsmall | hlarge := lt_or_ge ⌊w⌋ 3
    · have hnone : (⌊w⌋ - 3).toNat = 0 := by omega
      rw [hnone]
      exact le_max_of_le_right (by norm_num)
    · have hroom : (((⌊w⌋ - 3).toNat + 3 : Nat) : Int) = ⌊w⌋ := by omega
      have hcast : (((⌊w⌋ - 3).toNat + 3 : Nat) : ℚ) = (⌊w⌋ : ℚ) := by exact_mod_cast hroom
      exact le_max_of_le_left (hcast.trans_le hfloor)
  · intro h3
    have hlarge : 3 ≤ ⌊w⌋ := Int.le_floor.2 (by exact_mod_cast h3)
    rw [hlength]
    omega

end Value.Limits

/-! ## Joining -/

/-- What texts are joined to: they stand one after another with the separator between them, and
with the last separator in front of the last one if there is such a separator and a text before
it. -/
structure IsJoined (j : Joining) (texts : List Text) (joined : Text) : Prop where
  last : j.last ≠ [] → ∀ first rest final, texts = first :: rest ++ [final] →
    joined = Text.joinWith j.sep (first :: rest) ++ j.last ++ final
  plain : j.last = [] ∨ texts.length < 2 → joined = Text.joinWith j.sep texts
  nothing : texts = [] → joined = []

theorem isJoined_joinLast (j : Joining) (texts : List Text) :
    IsJoined j texts (joinLast j.sep j.last texts) where
  last hlast first rest final htexts := by
    have hdrop : texts.dropLast = first :: rest := by rw [htexts, List.dropLast_concat]
    rw [joinLast, htexts, List.getLast?_concat, ← htexts, hdrop]
    have hlong : texts.length > 1 := by simp [htexts]
    exact if_pos ⟨hlast, hlong⟩
  plain hplain := by
    cases hfinal : texts.getLast? with
    | none =>
      rw [List.getLast?_eq_none_iff] at hfinal
      subst hfinal
      rfl
    | some final =>
      rw [joinLast, hfinal]
      refine if_neg fun h => ?_
      obtain hlast | hshort := hplain
      · exact h.1 hlast
      · omega
  nothing htexts := by
    subst htexts
    rfl

/-- The texts of a value are those of its elements. -/
theorem vectorTexts_eq_ok_iff {na : Text} {v : Value} {texts : List Text} {s s' : Store} :
    vectorTexts na v s = (.ok texts, s') ↔
      ∃ items, asVector v s = (.ok items, s') ∧
        List.Forall₂ (fun item text => s'.elementText na item = .ok text) items texts := by
  rw [vectorTexts, Run.bind_eq_ok_iff]
  have hreads (items : List Value) (s₁ : Store) :
      (items.mapM (toText na)) s₁ = (items.mapM (s₁.elementText na), s₁) :=
    Run.mapM_of_reads (fun v => toText_apply na v s₁) items
  simp only [hreads]
  constructor
  · rintro ⟨items, s₁, hitems, hrun⟩
    obtain ⟨htexts, rfl⟩ := Prod.mk.inj hrun
    exact ⟨items, hitems, mapM_eq_ok_iff.1 htexts⟩
  · rintro ⟨items, hitems, htexts⟩
    exact ⟨items, s', hitems, by rw [mapM_eq_ok_iff.2 htexts]⟩

/-- Elements are joined and then cut, which changes nothing if there are none. -/
theorem collapse_eq {j : Joining} (h : truncateTo j.width [] = .ok []) (v : Value) (s : Store) :
    collapse j v s =
      (vectorTexts j.na v >>= fun texts =>
        Run.ofExcept (truncateTo j.width (joinLast j.sep j.last texts))) s := by
  rw [collapse, Run.bind_apply, Run.bind_apply]
  rcases vectorTexts j.na v s with ⟨f | texts, s'⟩
  · rfl
  · cases texts with
    | nil =>
      change (pure [] : Run Fault Text) s' = Run.ofExcept (truncateTo j.width []) s'
      rw [h]
      rfl
    | cons text texts => rfl

/-- What is joined without a width, and the same under a width that stands for a number of at least
zero: they fail alike. What is joined consists of the texts of the elements, and stays as it is if
it is not longer than the number. Otherwise it is cut and ended with three dots, so that it is not
longer, or only the dots are left; from three on, what the dots leave of the number is kept. -/
theorem collapse_within {j : Joining} {w : ℚ} (hw : j.width.Limits w) (h0 : 0 ≤ w) (v : Value)
    (s : Store) :
    let whole := collapse { j with width := unlimited } v s
    (∀ f s', whole = (.error f, s') → collapse j v s = (.error f, s')) ∧
      ∀ joined s', whole = (.ok joined, s') →
        (∃ items texts, asVector v s = (.ok items, s') ∧
          List.Forall₂ (fun item text => s'.elementText j.na item = .ok text) items texts ∧
          IsJoined j texts joined) ∧
        ((joined.length : ℚ) ≤ w → collapse j v s = (.ok joined, s')) ∧
        (w < joined.length → ∃ kept, kept <+: joined ∧
          collapse j v s = (.ok (kept ++ ['.', '.', '.']), s') ∧
          ((kept ++ ['.', '.', '.']).length : ℚ) ≤ max w 3 ∧
          (3 ≤ w → (kept.length : Int) = ⌊w⌋ - 3)) := by
  intro whole
  have hempty : truncateTo j.width [] = .ok [] := by
    have hnot : ¬ w < (([] : Text).length : ℚ) := by simpa using h0
    rw [hw.truncateTo_eq h0, if_neg hnot]
  have hwhole : whole = (vectorTexts j.na v >>= fun texts =>
      Run.ofExcept (.ok (joinLast j.sep j.last texts))) s := collapse_eq rfl v s
  have hcut := collapse_eq hempty v s
  -- both read the elements alike and differ in what they do with the joined text
  cases htexts : vectorTexts j.na v s with
  | mk result s₁ =>
  cases result with
  | error f =>
    rw [Run.bind_of_error htexts] at hwhole hcut
    refine ⟨fun f' s' h => hcut.trans (hwhole.symm.trans h), fun joined s' h => ?_⟩
    cases hwhole.symm.trans h
  | ok texts =>
    rw [Run.bind_of_ok htexts] at hwhole hcut
    refine ⟨fun f' s' h => ?_, fun joined s' h => ?_⟩
    · cases hwhole.symm.trans h
    obtain ⟨rfl, rfl⟩ := Run.ok_inj (hwhole.symm.trans h)
    obtain ⟨items, hitems, hall⟩ := vectorTexts_eq_ok_iff.1 htexts
    rw [hw.truncateTo_eq h0] at hcut
    refine ⟨⟨items, texts, hitems, hall, isJoined_joinLast j texts⟩, fun hfits => ?_,
      fun hlong => ?_⟩
    · rw [hcut, if_neg (not_lt.2 hfits)]
      rfl
    · obtain ⟨hle, hkept⟩ := Value.Limits.length_take_le h0 hlong
      refine ⟨_, List.take_prefix _ _, ?_, hle, hkept⟩
      rw [hcut, if_pos hlong]
      rfl

/-- Under a width of seven and a half, four characters of eleven are kept. -/
theorem collapse_within_fraction :
    let j : Joining := ⟨[',', ' '], .float 7.5 0, " and ".toList, "NA".toList⟩
    let v : Value := .tuple [.text ['a'], .none, .text ['b']]
    j.width.Limits (15 / 2) ∧ (0 : ℚ) ≤ 15 / 2 ∧
      collapse { j with width := unlimited } v .empty = (.ok "a, NA and b".toList, .empty) ∧
      ∃ kept, kept <+: "a, NA and b".toList ∧
        collapse j v .empty = (.ok (kept ++ ['.', '.', '.']), .empty) ∧ kept.length = 4 := by
  intro j v
  have hparts : Number.parts 7.5 = .finite false (15 * Number.twos 49) (-50) := by decide +kernel
  have hw : j.width.Limits (15 / 2) := by
    have hvalue : Number.signedValue false (15 * Number.twos 49) (-50) = 15 / 2 := by
      rw [Number.signedValue, if_neg (by decide), Nat.cast_mul, Number.twos_cast]
      norm_num
    exact hvalue ▸ .float hparts
  have h0 : (0 : ℚ) ≤ 15 / 2 := by norm_num
  have hwhole : collapse { j with width := unlimited } v .empty =
      (.ok "a, NA and b".toList, .empty) := rfl
  obtain ⟨-, hjoined⟩ := collapse_within hw h0 v .empty
  obtain ⟨-, -, hlong⟩ := hjoined _ _ hwhole
  have hlength : ("a, NA and b".toList.length : ℚ) = 11 := rfl
  obtain ⟨kept, hprefix, hcut, -, hroom⟩ := hlong (by rw [hlength]; norm_num)
  have hfloor : ⌊(15 / 2 : ℚ)⌋ = 7 := by norm_num
  have hkept := hroom (by norm_num)
  rw [hfloor] at hkept
  exact ⟨hw, h0, hwhole, kept, hprefix, hcut, by omega⟩

end Stencil
