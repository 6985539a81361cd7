import Mathlib.Data.Int.CardIntervalMod
import Stencil.Proofs.Basic
import Stencil.Rows.Broadcast

/-!
# How vectors make up rows

The number of rows is the least common multiple of the lengths (`rowCount_eq_ok`), unless a vector
is empty (`rowCount_of_zero`) or lengths that differ are refused (`rowCount_eq_error`); the rows go
over every vector again and again (`recycle?_eq`). What counts of the lengths is only which of them
occur beside one, so all of it is stated by membership.
-/

namespace Stencil

/-! ## Lengths -/

/-- Two different lengths occur beside one. -/
def Differ (lengths : List Int) : Prop :=
  ∃ a ∈ lengths, ∃ b ∈ lengths, a ≠ 1 ∧ b ≠ 1 ∧ a ≠ b

theorem mem_vectorLengths {lengths : List Int} {n : Int} :
    n ∈ vectorLengths lengths ↔ n ∈ lengths ∧ n ≠ 1 := by
  rw [vectorLengths, (List.mergeSort_perm _ _).mem_iff, List.mem_eraseDups, List.mem_filter,
    decide_eq_true_iff]

theorem nodup_vectorLengths (lengths : List Int) : (vectorLengths lengths).Nodup :=
  (List.mergeSort_perm _ _).nodup_iff.2 (nodup_eraseDups _)

theorem one_lt_length_vectorLengths {lengths : List Int} :
    1 < (vectorLengths lengths).length ↔ Differ lengths := by
  constructor
  · intro h
    have hnodup := nodup_vectorLengths lengths
    have hmem (n : Int) := @mem_vectorLengths lengths n
    match hv : vectorLengths lengths, h with
    | a :: b :: rest, _ =>
      rw [hv] at hnodup hmem
      obtain ⟨ha, ha1⟩ := (hmem a).1 (List.mem_cons_self ..)
      obtain ⟨hb, hb1⟩ := (hmem b).1 (List.mem_cons_of_mem a (List.mem_cons_self ..))
      have hne : a ≠ b := fun hab => (List.nodup_cons.1 hnodup).1 (hab ▸ List.mem_cons_self ..)
      exact ⟨a, ha, b, hb, ha1, hb1, hne⟩
  · rintro ⟨a, ha, b, hb, ha1, hb1, hne⟩
    have ha' : a ∈ vectorLengths lengths := mem_vectorLengths.2 ⟨ha, ha1⟩
    have hb' : b ∈ vectorLengths lengths := mem_vectorLengths.2 ⟨hb, hb1⟩
    match vectorLengths lengths, ha', hb' with
    | [c], ha', hb' =>
      rw [List.mem_singleton] at ha' hb'
      exact absurd (ha'.trans hb'.symm) hne
    | c :: d :: rest, _, _ => simp

theorem leastMultiple_dvd_iff {lengths : List Int} {m : Nat} :
    leastMultiple lengths ∣ m ↔ ∀ n ∈ lengths, n.natAbs ∣ m := by
  induction lengths with
  | nil => simp [leastMultiple]
  | cons n lengths ih =>
    rw [List.forall_mem_cons, ← ih, ← Nat.lcm_dvd_iff]
    rfl

/-- Which lengths occur beside one decides what the least common multiple is. -/
theorem leastMultiple_congr {l m : List Int} (h : ∀ n, n ≠ 1 → (n ∈ l ↔ n ∈ m)) :
    leastMultiple l = leastMultiple m := by
  have hdvd {l m : List Int} (h : ∀ n, n ≠ 1 → n ∈ l → n ∈ m) :
      leastMultiple l ∣ leastMultiple m := by
    rw [leastMultiple_dvd_iff]
    intro n hn
    by_cases hone : n = 1
    · simp [hone]
    · exact leastMultiple_dvd_iff.1 dvd_rfl n (h n hone hn)
  exact Nat.dvd_antisymm (hdvd fun n hne => (h n hne).1) (hdvd fun n hne => (h n hne).2)

theorem leastMultiple_vectorLengths (lengths : List Int) :
    leastMultiple (vectorLengths lengths) = leastMultiple lengths :=
  leastMultiple_congr fun n hn => by rw [mem_vectorLengths, and_iff_left hn]

/-! ## The number of rows -/

theorem rowCount_of_zero (policy : BroadcastPolicy) {lengths : List Int} (h : 0 ∈ lengths) :
    rowCount policy lengths = .ok (0, none) := by
  rw [rowCount, if_pos (List.contains_iff_mem.2 h)]

theorem rowCount_eq_error {lengths : List Int} (h : 0 ∉ lengths) (hdiffer : Differ lengths) :
    rowCount .strict lengths = .error ⟨vectorLengths lengths⟩ := by
  have hzero : ¬ lengths.contains 0 = true := fun hc => h (List.contains_iff_mem.1 hc)
  have hlong : BroadcastPolicy.strict = .strict ∧ (vectorLengths lengths).length > 1 :=
    ⟨rfl, one_lt_length_vectorLengths.2 hdiffer⟩
  rw [rowCount, if_neg hzero]
  exact if_pos hlong

theorem rowCount_eq_ok {policy : BroadcastPolicy} {lengths : List Int} (h : 0 ∉ lengths)
    (hpolicy : ¬ (policy = .strict ∧ Differ lengths)) :
    rowCount policy lengths =
      .ok (leastMultiple lengths, firstUneven (vectorLengths lengths)) := by
  have hzero : ¬ lengths.contains 0 = true := fun hc => h (List.contains_iff_mem.1 hc)
  have hlong : ¬ (policy = .strict ∧ (vectorLengths lengths).length > 1) := fun hc =>
    hpolicy ⟨hc.1, one_lt_length_vectorLengths.1 hc.2⟩
  rw [rowCount, if_neg hzero]
  simp only [if_neg hlong, leastMultiple_vectorLengths]

/-! ## Rows -/

/-- The element of a piece that a row comes to. -/
def cycled (row : Nat) (piece : List Text) : Text := piece[row % piece.length]?.getD []

theorem getElem?_mod {α : Type} {items : List α} (h : items ≠ []) (row : Nat) :
    ∃ x, items[row % items.length]? = some x :=
  ⟨_, List.getElem?_eq_getElem (Nat.mod_lt row (List.length_pos_iff.2 h))⟩

/-- A row is made of one element of each piece. -/
theorem rowAt?_eq {pieces : List (List Text)} (h : [] ∉ pieces) (row : Nat) :
    rowAt? pieces row = some (pieces.flatMap (cycled row)) := by
  have hmap : (pieces.mapM fun piece => piece[row % piece.length]?) =
      some (pieces.map (cycled row)) := by
    induction pieces with
    | nil => rfl
    | cons piece pieces ih =>
      rw [List.mem_cons, not_or] at h
      obtain ⟨x, hx⟩ := getElem?_mod (Ne.symm h.1) row
      rw [List.mapM_cons, ih h.2, hx, List.map_cons, cycled, hx]
      rfl
  rw [rowAt?, hmap, Option.map_some, List.flatMap_def]

theorem recycle?_eq {pieces : List (List Text)} (h : [] ∉ pieces) (rows : Nat) :
    recycle? pieces rows = some ((List.range rows).map fun row => pieces.flatMap (cycled row)) := by
  rw [recycle?]
  induction List.range rows with
  | nil => rfl
  | cons row more ih =>
    rw [List.mapM_cons, rowAt?_eq h, ih]
    rfl

theorem recycle?_zero (pieces : List (List Text)) : recycle? pieces 0 = some [] := rfl

/-- Of all rows, each element of a vector whose length divides their number has an equal share. -/
theorem length_filter_mod_eq {n rows j : Nat} (hn : n ∣ rows) (hj : j < n) :
    ((List.range rows).filter fun row => row % n = j).length = rows / n := by
  have hcount : Nat.count (· ≡ j [MOD n]) rows = rows / n := by
    rw [Nat.count_modEq_card rows (Nat.zero_lt_of_lt hj), Nat.mod_eq_zero_of_dvd hn]
    simp
  rw [← hcount, Nat.count, List.countP_eq_length_filter]
  congr 1
  refine List.filter_congr fun row _ => ?_
  simp only [Nat.ModEq, Nat.mod_eq_of_lt hj]

end Stencil
