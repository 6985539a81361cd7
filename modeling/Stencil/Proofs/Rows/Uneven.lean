import Mathlib.Data.List.Sort
import Stencil.Proofs.Rows.Broadcast

/-!
# Notice of uneven lengths

Lengths of which neither divides the other go together only by starting over at different places,
and the first such pair is given notice of. Main statement: `rowCount_diagnostics`, that pair is the
lexicographically least one among the lengths, there is no notice without such a pair or under the
strict policy, and the order of the lengths, their repetitions and ones do not matter. The search
goes over the different lengths in ascending order (`pairwise_vectorLengths`), where a later length
cannot divide an earlier one, so that it has to look for multiples only.
-/

namespace Stencil

/-- Neither of two lengths divides the other. -/
def Uneven (a b : Int) : Prop := ¬ a ∣ b ∧ ¬ b ∣ a

/-- The pair of uneven lengths that comes first: its shorter length is the least that is the shorter
one of a pair, and its longer length the least that goes unevenly with it. -/
structure IsFirstUneven (lengths : List Int) (u : UnevenLengths) : Prop where
  shorter_mem : u.shorter ∈ lengths
  longer_mem : u.longer ∈ lengths
  lt : u.shorter < u.longer
  uneven : Uneven u.shorter u.longer
  least : ∀ a ∈ lengths, ∀ b ∈ lengths, a < b → Uneven a b →
    u.shorter < a ∨ u.shorter = a ∧ u.longer ≤ b

/-! ## Pairs -/

theorem Uneven.symm {a b : Int} (h : Uneven a b) : Uneven b a := ⟨h.2, h.1⟩

theorem Uneven.ne {a b : Int} (h : Uneven a b) : a ≠ b := by
  rintro rfl
  exact h.1 dvd_rfl

/-- One goes evenly with every length. -/
theorem Uneven.ne_one {a b : Int} (h : Uneven a b) : a ≠ 1 ∧ b ≠ 1 := by
  constructor
  · rintro rfl
    exact h.1 (one_dvd b)
  · rintro rfl
    exact h.2 (one_dvd a)

/-- Of two lengths only the longer one can be a multiple of the other. -/
theorem uneven_iff_of_lt {a b : Int} (ha : 0 < a) (hlt : a < b) : Uneven a b ↔ ¬ a ∣ b :=
  and_iff_left fun hdvd => absurd (Int.le_of_dvd ha hdvd) (by omega)

namespace IsFirstUneven

variable {l m : List Int} {u v : UnevenLengths}

theorem unique (hu : IsFirstUneven l u) (hv : IsFirstUneven l v) : u = v := by
  have huv := hu.least _ hv.shorter_mem _ hv.longer_mem hv.lt hv.uneven
  have hvu := hv.least _ hu.shorter_mem _ hu.longer_mem hu.lt hu.uneven
  obtain ⟨a, b⟩ := u
  obtain ⟨c, d⟩ := v
  simp only at huv hvu
  obtain rfl : a = c := by omega
  obtain rfl : b = d := by omega
  rfl

/-- Which lengths occur beside one decides what pair comes first. -/
theorem congr (h : ∀ n, n ≠ 1 → (n ∈ l ↔ n ∈ m)) (hu : IsFirstUneven l u) :
    IsFirstUneven m u where
  shorter_mem := (h _ hu.uneven.ne_one.1).1 hu.shorter_mem
  longer_mem := (h _ hu.uneven.ne_one.2).1 hu.longer_mem
  lt := hu.lt
  uneven := hu.uneven
  least a ha b hb hlt hab :=
    hu.least a ((h a hab.ne_one.1).2 ha) b ((h b hab.ne_one.2).2 hb) hlt hab

/-- A length in front that goes evenly with all others changes nothing. -/
theorem cons_iff {a : Int} (h : ∀ b ∈ l, ¬ Uneven a b) :
    IsFirstUneven (a :: l) u ↔ IsFirstUneven l u := by
  have hpair {c d : Int} (hc : c ∈ a :: l) (hd : d ∈ a :: l) (hcd : Uneven c d) :
      c ∈ l ∧ d ∈ l := by
    obtain rfl | hc' := List.mem_cons.1 hc
    · obtain rfl | hd' := List.mem_cons.1 hd
      · exact absurd rfl hcd.ne
      · exact absurd hcd (h d hd')
    · obtain rfl | hd' := List.mem_cons.1 hd
      · exact absurd hcd.symm (h c hc')
      · exact ⟨hc', hd'⟩
  constructor
  · intro hu
    obtain ⟨hs, hl⟩ := hpair hu.shorter_mem hu.longer_mem hu.uneven
    exact ⟨hs, hl, hu.lt, hu.uneven, fun c hc d hd =>
      hu.least c (List.mem_cons_of_mem a hc) d (List.mem_cons_of_mem a hd)⟩
  · intro hu
    refine ⟨List.mem_cons_of_mem a hu.shorter_mem, List.mem_cons_of_mem a hu.longer_mem, hu.lt,
      hu.uneven, fun c hc d hd hlt hcd => ?_⟩
    obtain ⟨hc, hd⟩ := hpair hc hd hcd
    exact hu.least c hc d hd hlt hcd

end IsFirstUneven

/-! ## The search -/

/-- In ascending order the search finds the pair that comes first. -/
theorem firstUneven_eq_some_iff {l : List Int} {u : UnevenLengths} (hpos : ∀ n ∈ l, 0 < n)
    (hlt : l.Pairwise (· < ·)) : firstUneven l = some u ↔ IsFirstUneven l u := by
  induction l with
  | nil =>
    refine iff_of_false (by simp [firstUneven]) fun hu => ?_
    exact absurd hu.shorter_mem (by simp)
  | cons a l ih =>
    obtain ⟨ha, hpos⟩ := List.forall_mem_cons.1 hpos
    obtain ⟨hfirst, hlt'⟩ := List.pairwise_cons.1 hlt
    have huneven (b : Int) (hb : b ∈ l) : Uneven a b ↔ b % a ≠ 0 := by
      rw [uneven_iff_of_lt ha (hfirst b hb), ne_eq, Int.dvd_iff_emod_eq_zero]
    cases hfind : l.find? fun b => b % a ≠ 0 with
    | none =>
      have heven : ∀ b ∈ l, ¬ Uneven a b := fun b hb => by
        have := List.find?_eq_none.1 hfind b hb
        rw [huneven b hb]
        simpa using this
      rw [firstUneven, hfind, IsFirstUneven.cons_iff heven]
      exact ih hpos hlt'
    | some b =>
      obtain ⟨hb, before, after, rfl, hbefore⟩ := List.find?_eq_some_iff_append.1 hfind
      have hmem : b ∈ before ++ b :: after := by simp
      have hfound : IsFirstUneven (a :: (before ++ b :: after)) ⟨a, b⟩ := by
        refine ⟨by simp, by simp, hfirst b hmem, (huneven b hmem).2 (by simpa using hb), ?_⟩
        intro c hc d hd hcd hne
        obtain rfl | hc := List.mem_cons.1 hc
        · refine .inr ⟨rfl, ?_⟩
          -- lengths in front of `b` are multiples of `a`, and those after it are longer
          obtain rfl | hd := List.mem_cons.1 hd
          · exact absurd rfl hne.ne
          obtain hd' | hd' := List.mem_append.1 hd
          · have := hbefore d hd'
            exact absurd ((huneven d hd).1 hne) (by simpa using this)
          obtain rfl | hd' := List.mem_cons.1 hd'
          · exact le_rfl
          · have := (List.pairwise_append.1 hlt').2.1
            exact (List.rel_of_pairwise_cons this hd').le
        · exact .inl (hfirst c hc)
      rw [firstUneven, hfind]
      constructor
      · rintro ⟨⟩
        exact hfound
      · exact fun hu => congrArg some (hfound.unique hu)

/-- The search finds nothing only if every length divides all later ones. -/
theorem firstUneven_eq_none_iff {l : List Int} : firstUneven l = none ↔ l.Pairwise (· ∣ ·) := by
  induction l with
  | nil => simp [firstUneven]
  | cons a l ih =>
    rw [List.pairwise_cons, ← ih, firstUneven]
    cases hfind : l.find? fun b => b % a ≠ 0 with
    | none =>
      have hdvd : ∀ b ∈ l, a ∣ b := fun b hb => by
        have := List.find?_eq_none.1 hfind b hb
        exact Int.dvd_iff_emod_eq_zero.2 (by simpa using this)
      exact (and_iff_right hdvd).symm
    | some b =>
      obtain ⟨hb, before, after, rfl, -⟩ := List.find?_eq_some_iff_append.1 hfind
      refine iff_of_false (by simp) fun h => ?_
      have hdvd := Int.dvd_iff_emod_eq_zero.1 (h.1 b (by simp))
      exact absurd hdvd (by simpa using hb)

/-- In ascending order the search finds a pair if there is one. -/
theorem firstUneven_isSome_iff {l : List Int} (hpos : ∀ n ∈ l, 0 < n) (hlt : l.Pairwise (· < ·)) :
    (firstUneven l).isSome ↔ ∃ a ∈ l, ∃ b ∈ l, Uneven a b := by
  constructor
  · intro h
    obtain ⟨u, hu⟩ := Option.isSome_iff_exists.1 h
    have hfirst := (firstUneven_eq_some_iff hpos hlt).1 hu
    exact ⟨_, hfirst.shorter_mem, _, hfirst.longer_mem, hfirst.uneven⟩
  · rintro ⟨a, ha, b, hb, hab⟩
    by_contra hnone
    rw [Bool.not_eq_true, Option.isSome_eq_false_iff, Option.isNone_iff_eq_none,
      firstUneven_eq_none_iff] at hnone
    -- of two lengths the one that comes later is a multiple of the other
    have heven : l.Pairwise fun c d => ¬ Uneven c d := hnone.imp fun hdvd h => h.1 hdvd
    have : Std.Symm fun c d => ¬ Uneven c d := ⟨fun _ _ h hdc => h hdc.symm⟩
    exact heven.forall_of_forall (fun _ _ h => h.ne rfl) ha hb hab

/-! ## Lengths in ascending order -/

theorem pairwise_vectorLengths (lengths : List Int) : (vectorLengths lengths).Pairwise (· < ·) :=
  (List.sortedLE_mergeSort.sortedLT_of_nodup (nodup_vectorLengths lengths)).pairwise

/-- Which lengths occur beside one decides how many rows there are, what is refused and what notice
is given. -/
theorem rowCount_congr {l m : List Int} (policy : BroadcastPolicy)
    (h : ∀ n, n ≠ 1 → (n ∈ l ↔ n ∈ m)) : rowCount policy l = rowCount policy m := by
  have hzero : l.contains 0 = m.contains 0 := by
    rw [Bool.eq_iff_iff, List.contains_iff_mem, List.contains_iff_mem]
    exact h 0 (by decide)
  have hdifferent : vectorLengths l = vectorLengths m := by
    refine (pairwise_vectorLengths l).eq_of_mem_iff (pairwise_vectorLengths m) ?_
    intro n
    rw [mem_vectorLengths, mem_vectorLengths]
    exact and_congr_left (h n)
  rw [rowCount, rowCount, hzero, hdifferent]

/-- Lengths that are not refused under the strict policy give no notice. -/
theorem rowCount_strict_eq_ok {lengths : List Int} {rows : Nat} {notice : Option UnevenLengths}
    (h : rowCount .strict lengths = .ok (rows, notice)) : notice = none := by
  by_cases hzero : 0 ∈ lengths
  · rw [rowCount_of_zero .strict hzero] at h
    exact (Prod.mk.inj (Except.ok.inj h)).2.symm
  by_cases hdiffer : Differ lengths
  · rw [rowCount_eq_error hzero hdiffer] at h
    exact absurd h (by simp)
  · rw [rowCount_eq_ok hzero fun hstrict => hdiffer hstrict.2] at h
    rw [← (Prod.mk.inj (Except.ok.inj h)).2, firstUneven_eq_none_iff]
    -- there is one length beside one at most
    rw [← one_lt_length_vectorLengths, not_lt] at hdiffer
    match vectorLengths lengths, hdiffer with
    | [], _ => exact .nil
    | [n], _ => exact List.pairwise_singleton _ n

/-- The notice given about lengths is exact: under the recycling policy it names the
lexicographically least pair of lengths neither of which divides the other, and there is one if and
only if there is such a pair; under the strict policy there is none. Neither the order of the
lengths nor repetitions nor ones change the number of rows, the refusal or the notice. -/
theorem rowCount_diagnostics (policy : BroadcastPolicy) (lengths : List Int) :
    ((∀ n ∈ lengths, 0 < n) →
      ∃ notice, rowCount .recycle lengths = .ok (leastMultiple lengths, notice) ∧
        (notice.isSome ↔ ∃ a ∈ lengths, ∃ b ∈ lengths, Uneven a b) ∧
        ∀ u, notice = some u ↔ IsFirstUneven lengths u) ∧
    (∀ rows notice, rowCount .strict lengths = .ok (rows, notice) → notice = none) ∧
    (∀ others, lengths.Perm others → rowCount policy others = rowCount policy lengths) ∧
    (∀ n ∈ lengths, rowCount policy (n :: lengths) = rowCount policy lengths) ∧
    rowCount policy (1 :: lengths) = rowCount policy lengths := by
  refine ⟨fun hpos => ?_, fun _ _ => rowCount_strict_eq_ok, fun others hperm => ?_, fun n hn => ?_,
    ?_⟩
  · have hzero : 0 ∉ lengths := fun hmem => absurd (hpos 0 hmem) (by decide)
    have hcount : rowCount .recycle lengths =
        .ok (leastMultiple lengths, firstUneven (vectorLengths lengths)) :=
      rowCount_eq_ok hzero (by simp)
    have hpos' : ∀ n ∈ vectorLengths lengths, 0 < n := fun n hn => hpos n (mem_vectorLengths.1 hn).1
    have hlt := pairwise_vectorLengths lengths
    have hmem (n : Int) (hn : n ≠ 1) : n ∈ vectorLengths lengths ↔ n ∈ lengths := by
      rw [mem_vectorLengths, and_iff_left hn]
    refine ⟨_, hcount, ?_, fun u => ?_⟩
    · rw [firstUneven_isSome_iff hpos' hlt]
      constructor
      · rintro ⟨a, ha, b, hb, hab⟩
        exact ⟨a, (hmem a hab.ne_one.1).1 ha, b, (hmem b hab.ne_one.2).1 hb, hab⟩
      · rintro ⟨a, ha, b, hb, hab⟩
        exact ⟨a, (hmem a hab.ne_one.1).2 ha, b, (hmem b hab.ne_one.2).2 hb, hab⟩
    · rw [firstUneven_eq_some_iff hpos' hlt]
      exact ⟨.congr hmem, .congr fun n hn => (hmem n hn).symm⟩
  · exact rowCount_congr policy fun n _ => hperm.symm.mem_iff
  · refine rowCount_congr policy fun m _ => ?_
    rw [List.mem_cons, or_iff_right_of_imp]
    rintro rfl
    exact hn
  · refine rowCount_congr policy fun n hn => ?_
    rw [List.mem_cons, or_iff_right hn]

/-- Of the three uneven pairs among these lengths the one with the least shorter length, and then
the least longer length, is given notice of. -/
theorem rowCount_diagnostics_three_pairs :
    let lengths : List Int := [9, 1, 6, 4, 6]
    (∀ n ∈ lengths, 0 < n) ∧ rowCount .recycle lengths = .ok (36, some ⟨4, 6⟩) ∧
      IsFirstUneven lengths ⟨4, 6⟩ := by
  intro lengths
  have hpos : ∀ n ∈ lengths, 0 < n := by decide
  have hfirst : IsFirstUneven lengths ⟨4, 6⟩ := by
    refine ⟨by decide, by decide, by decide, ⟨by decide, by decide⟩, ?_⟩
    unfold Uneven
    decide
  obtain ⟨notice, hcount, -, hnotice⟩ := (rowCount_diagnostics .recycle lengths).1 hpos
  obtain rfl := (hnotice _).2 hfirst
  exact ⟨hpos, hcount, hfirst⟩

end Stencil
