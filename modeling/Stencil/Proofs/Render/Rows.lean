import Stencil.Proofs.Rows.Broadcast
import Stencil.Transform.Apply

/-!
# The rows of a template

Each segment of a template has a share in its rows (`sharesOf`): a literal its text, and a block the
elements of its vector, with the store in which their texts are taken. Main statement:
`renderSegments_shares`, the rows are the shares broadcast against one another (`IsBroadcast`),
unless lengths are refused or an element has no text.
-/

namespace Stencil

open Template (Segment)

/-! ## Shares -/

/-- What a segment adds to the rows: a text to each, or its elements in turn. -/
inductive Share
  | literal (text : Text)
  | vector (items : List Value) (s : Store)

/-- The text of an element, missing ones as `na`. -/
def Store.elementText (s : Store) (na : Text) (v : Value) : Except Fault Text :=
  if v.isMissing then .ok na else s.text v

namespace Share

/-- The number of elements of a vector; a literal has no such number. -/
def length? : Share → Option Nat
  | literal _ => none
  | vector items _ => some items.length

/-- A share has the texts that it shows. -/
def HasTexts (na : Text) : Share → Prop
  | literal _ => True
  | vector items s => ∀ v ∈ items, ∃ text, s.elementText na v = .ok text

/-- What a share shows in a row: its text, or that of the element which the row comes to. -/
def ShowsAt (na : Text) (row : Nat) (share : Share) (text : Text) : Prop :=
  match share with
  | literal own => text = own
  | vector items s => ∃ v, items[row % items.length]? = some v ∧ s.elementText na v = .ok text

/-- All texts of a share, or the fault of an element without one and the store in which it is
found. -/
def piece (na : Text) : Share → Except (Fault × Store) (List Text)
  | literal text => .ok [text]
  | vector items s => (items.mapM (s.elementText na)).mapError (·, s)

end Share

/-- The share of a segment: its text, or the elements of the vector that `apply` makes of its block,
in the store that this leaves. -/
def shareOf (apply : Text → Rendering Value) : Segment → Rendering Share
  | .literal text _ => return .literal text
  | .expression text _ _ => do
    let v ← apply text
    let items ← Rendering.ofFaults (asVector v)
    return .vector items (← get)

/-- The shares of segments, in order. -/
def sharesOf (apply : Text → Rendering Value) (segments : List Segment) : Rendering (List Share) :=
  segments.mapM (shareOf apply)

/-- The lengths of the vectors among shares. -/
def vectorSizes (shares : List Share) : List Nat := shares.filterMap Share.length?

/-- The number of rows that shares make up: the least common multiple of the lengths of their
vectors. -/
def rowsOf (shares : List Share) : Nat := (vectorSizes shares).foldr Nat.lcm 1

/-- Two vectors have different lengths, neither of which is one. -/
def SizesDiffer (shares : List Share) : Prop :=
  ∃ m ∈ vectorSizes shares, ∃ n ∈ vectorSizes shares, m ≠ 1 ∧ n ≠ 1 ∧ m ≠ n

/-- Rows are shares broadcast against one another: every row has what each share shows in it, one
after another, and each element of a vector stands in its part of the rows. -/
structure IsBroadcast (na : Text) (shares : List Share) (rows : List Text) : Prop where
  length_eq : rows.length = rowsOf shares
  row : ∀ i < rows.length, ∃ texts, List.Forall₂ (Share.ShowsAt na i) shares texts ∧
    rows[i]? = some texts.flatten
  uses : ∀ items s, .vector items s ∈ shares → ∀ j < items.length,
    ((List.range rows.length).filter fun i => i % items.length = j).length =
      rows.length / items.length

/-! ## The texts of segments -/

theorem toText_apply (na : Text) (v : Value) (s : Store) :
    toText na v s = (s.elementText na v, s) := by
  unfold toText Store.elementText
  split <;> rfl

/-- The texts of a segment are those of its share. -/
theorem segmentTexts_of_share {apply : Text → Rendering Value} {s s' : Store} {segment : Segment}
    {share : Share} (h : shareOf apply segment s = (.ok share, s')) (na : Text) :
    segmentTexts apply na segment s =
      match share.piece na with
      | .ok piece => (.ok piece, s')
      | .error (fault, after) => (.error (.fault fault), after) := by
  cases segment with
  | literal text raw =>
    obtain ⟨rfl, rfl⟩ : Share.literal text = share ∧ s = s' := Run.ok_inj h
    rfl
  | expression text start stop =>
    obtain ⟨v, s₁, happly, h⟩ := Run.bind_eq_ok_iff.1 h
    obtain ⟨items, s₂, hitems, h⟩ := Run.bind_eq_ok_iff.1 h
    obtain ⟨rfl, rfl⟩ : Share.vector items s₂ = share ∧ s₂ = s' := Run.ok_inj h
    have hvector : asVector v s₁ = (.ok items, s₂) := by
      rw [Rendering.ofFaults, Run.mapError_apply, Prod.mk.injEq] at hitems
      obtain ⟨hok, hstore⟩ := hitems
      cases hr : (asVector v s₁).1 with
      | error fault =>
        rw [hr] at hok
        exact absurd hok (by simp [Except.mapError])
      | ok own =>
        rw [hr] at hok
        obtain rfl : own = items := Except.ok.inj hok
        exact Prod.ext hr hstore
    have htexts : vectorTexts na v s₁ = (items.mapM (s₂.elementText na), s₂) := by
      rw [vectorTexts, Run.bind_of_ok hvector]
      exact Run.mapM_of_reads (fun v => toText_apply na v s₂) items
    rw [segmentTexts, Run.bind_of_ok happly, Rendering.ofFaults, Run.mapError_apply, htexts,
      Share.piece]
    cases items.mapM (s₂.elementText na) <;> rfl

/-- The texts of segments are those of their shares, up to the first share that lacks one. -/
theorem mapM_segmentTexts {apply : Text → Rendering Value} {s s' : Store} {segments : List Segment}
    {shares : List Share} (h : sharesOf apply segments s = (.ok shares, s')) (na : Text) :
    (segments.mapM (segmentTexts apply na)) s =
      match shares.mapM (Share.piece na) with
      | .ok pieces => (.ok pieces, s')
      | .error (fault, after) => (.error (.fault fault), after) := by
  induction segments generalizing s shares with
  | nil =>
    obtain ⟨rfl, rfl⟩ : [] = shares ∧ s = s' := Run.ok_inj h
    rfl
  | cons segment segments ih =>
    rw [sharesOf, List.mapM_cons] at h
    obtain ⟨share, s₁, hshare, h⟩ := Run.bind_eq_ok_iff.1 h
    obtain ⟨rest, s₂, hrest, h⟩ := Run.bind_eq_ok_iff.1 h
    obtain ⟨rfl, rfl⟩ : share :: rest = shares ∧ s₂ = s' := Run.ok_inj h
    rw [List.mapM_cons, Run.bind_apply, segmentTexts_of_share hshare na, List.mapM_cons]
    cases share.piece na with
    | error e => rfl
    | ok piece =>
      simp only [Run.bind_apply, ih hrest]
      cases rest.mapM (Share.piece na) <;> rfl

/-! ## Putting rows together -/

/-- The store after a notice, if there is one. -/
def Store.noting (s : Store) (uneven : Option UnevenLengths) : Store :=
  { s with notices := s.notices ++ uneven.toList }

/-- The lengths of pieces. -/
def pieceLengths (pieces : List (List Text)) : List Int :=
  pieces.map fun piece => (piece.length : Int)

theorem assemble_of_ok {policy : BroadcastPolicy} {pieces : List (List Text)} {rows : Nat}
    {uneven : Option UnevenLengths}
    (h : rowCount policy (pieceLengths pieces) = .ok (rows, uneven)) (s : Store) :
    assemble policy pieces s = (.ok ((recycle? pieces rows).getD []), s.noting uneven) := by
  have hcount : (Run.ofExcept ((rowCount policy (pieceLengths pieces)).mapError .broadcast) :
      Rendering (Nat × Option UnevenLengths)) s = (.ok (rows, uneven), s) := by
    rw [h]
    rfl
  have hnotice : (uneven.forM Run.notice : Rendering Unit) s = (.ok (), s.noting uneven) := by
    cases uneven with
    | none => simp [Store.noting]
    | some u => rfl
  exact (Run.bind_of_ok hcount).trans (Run.bind_of_ok hnotice)

/-- A piece of one text is all that there is in the only row. -/
theorem assemble_single (policy : BroadcastPolicy) (v : Text) (s : Store) :
    assemble policy [[v]] s = (.ok [v], s) := by
  have hone : rowCount policy [1] = .ok (1, none) := by cases policy <;> decide +kernel
  have hcount : rowCount policy (pieceLengths [[v]]) = .ok (1, none) := hone
  rw [assemble_of_ok hcount, recycle?_eq (by simp)]
  simp [cycled, Store.noting]

theorem assemble_of_error {policy : BroadcastPolicy} {pieces : List (List Text)}
    {e : BroadcastError} (h : rowCount policy (pieceLengths pieces) = .error e) (s : Store) :
    assemble policy pieces s = (.error (.broadcast e), s) := by
  have hcount : (Run.ofExcept ((rowCount policy (pieceLengths pieces)).mapError .broadcast) :
      Rendering (Nat × Option UnevenLengths)) s = (.error (.broadcast e), s) := by
    rw [h]
    rfl
  exact Run.bind_of_error hcount

theorem piece_eq_ok {na : Text} {share : Share} (h : share.HasTexts na) :
    ∃ piece, share.piece na = .ok piece := by
  cases share with
  | literal text => exact ⟨[text], rfl⟩
  | vector items s =>
    cases hitems : items.mapM (s.elementText na) with
    | ok texts => exact ⟨texts, by rw [Share.piece, hitems]; rfl⟩
    | error fault =>
      obtain ⟨v, hv, hfault⟩ := exists_of_mapM_eq_error hitems
      obtain ⟨text, htext⟩ := h v hv
      rw [htext] at hfault
      exact absurd hfault (by simp)

/-- A share whose texts cannot be listed has an element without one. -/
theorem exists_of_piece_eq_error {na : Text} {share : Share} {fault : Fault} {at_ : Store}
    (h : share.piece na = .error (fault, at_)) :
    ∃ items v, share = .vector items at_ ∧ v ∈ items ∧ at_.elementText na v = .error fault := by
  cases share with
  | literal text => exact absurd h (by simp [Share.piece])
  | vector items s =>
    rw [Share.piece] at h
    cases hitems : items.mapM (s.elementText na) with
    | ok texts =>
      rw [hitems] at h
      exact absurd h (by simp [Except.mapError])
    | error e =>
      rw [hitems] at h
      obtain ⟨rfl, rfl⟩ : e = fault ∧ s = at_ := by simpa [Except.mapError] using h
      obtain ⟨v, hv, hfault⟩ := exists_of_mapM_eq_error hitems
      exact ⟨items, v, rfl, hv, hfault⟩

theorem piece_vector_eq_ok_iff {na : Text} {items : List Value} {s : Store} {piece : List Text} :
    (Share.vector items s).piece na = .ok piece ↔
      List.Forall₂ (fun v text => s.elementText na v = .ok text) items piece := by
  rw [← mapM_eq_ok_iff, Share.piece]
  cases items.mapM (s.elementText na) <;> simp [Except.mapError]

/-- A share whose texts can be listed has them all. -/
theorem hasTexts_of_piece {na : Text} {share : Share} {piece : List Text}
    (h : share.piece na = .ok piece) : share.HasTexts na := by
  cases share with
  | literal text => trivial
  | vector items s =>
    intro v hv
    obtain ⟨text, -, htext⟩ := exists_right_of_mem (piece_vector_eq_ok_iff.1 h) hv
    exact ⟨text, htext⟩

/-- A piece has as many texts as its share has elements, and a literal has one. -/
theorem length_piece {na : Text} {share : Share} {piece : List Text}
    (h : share.piece na = .ok piece) : piece.length = share.length?.getD 1 := by
  cases share with
  | literal text =>
    obtain rfl : [text] = piece := Except.ok.inj h
    rfl
  | vector items s => exact (piece_vector_eq_ok_iff.1 h).length_eq.symm

/-- A share shows in a row the element of its piece that the row comes to. -/
theorem showsAt_cycled {na : Text} {share : Share} {piece : List Text}
    (h : share.piece na = .ok piece) (hne : piece ≠ []) (row : Nat) :
    share.ShowsAt na row (cycled row piece) := by
  cases share with
  | literal text =>
    obtain rfl : [text] = piece := Except.ok.inj h
    simp [Share.ShowsAt, cycled, Nat.mod_one]
  | vector items s =>
    have hall := piece_vector_eq_ok_iff.1 h
    have hrow : row % items.length < piece.length := by
      rw [hall.length_eq]
      exact Nat.mod_lt row (List.length_pos_iff.2 hne)
    have hrow' : row % items.length < items.length := hall.length_eq ▸ hrow
    refine ⟨items[row % items.length], List.getElem?_eq_getElem hrow', ?_⟩
    have := hall.get hrow' hrow
    rw [cycled, ← hall.length_eq, List.getElem?_eq_getElem hrow]
    exact this

theorem mem_vectorSizes {shares : List Share} {n : Nat} :
    n ∈ vectorSizes shares ↔ ∃ items s, .vector items s ∈ shares ∧ items.length = n := by
  rw [vectorSizes, List.mem_filterMap]
  constructor
  · rintro ⟨share, hmem, hlen⟩
    cases share with
    | literal text => exact absurd hlen (by simp [Share.length?])
    | vector items s => exact ⟨items, s, hmem, Option.some.inj hlen⟩
  · rintro ⟨items, s, hmem, rfl⟩
    exact ⟨_, hmem, rfl⟩

/-- Beside one, the lengths of the pieces are those of the vectors. -/
theorem mem_pieceLengths {na : Text} {shares : List Share} {pieces : List (List Text)}
    (h : List.Forall₂ (fun share piece => share.piece na = .ok piece) shares pieces) {n : Int}
    (hn : n ≠ 1) : n ∈ pieceLengths pieces ↔ ∃ m ∈ vectorSizes shares, n = (m : Int) := by
  induction h with
  | nil => simp [pieceLengths, vectorSizes]
  | @cons share piece shares pieces hpiece _ ih =>
    have hlen := length_piece hpiece
    have hcons : pieceLengths (piece :: pieces) = (piece.length : Int) :: pieceLengths pieces := rfl
    rw [hcons, List.mem_cons, ih, hlen]
    cases share with
    | literal text =>
      have hsizes : vectorSizes (.literal text :: shares) = vectorSizes shares := rfl
      simp [Share.length?, hsizes, hn]
    | vector items s =>
      have hsizes : vectorSizes (.vector items s :: shares) =
          items.length :: vectorSizes shares := rfl
      simp [Share.length?, hsizes]

section

variable {na : Text} {shares : List Share} {pieces : List (List Text)}

theorem zero_mem_pieceLengths
    (h : List.Forall₂ (fun share piece => share.piece na = .ok piece) shares pieces) :
    0 ∈ pieceLengths pieces ↔ 0 ∈ vectorSizes shares := by
  rw [mem_pieceLengths h (by simp)]
  constructor
  · rintro ⟨m, hm, hzero⟩
    obtain rfl : m = 0 := by omega
    exact hm
  · exact fun hm => ⟨0, hm, rfl⟩

theorem differ_pieceLengths
    (h : List.Forall₂ (fun share piece => share.piece na = .ok piece) shares pieces) :
    Differ (pieceLengths pieces) ↔ SizesDiffer shares := by
  constructor
  · rintro ⟨a, ha, b, hb, ha1, hb1, hne⟩
    obtain ⟨m, hm, rfl⟩ := (mem_pieceLengths h ha1).1 ha
    obtain ⟨n, hn, rfl⟩ := (mem_pieceLengths h hb1).1 hb
    exact ⟨m, hm, n, hn, by omega, by omega, by omega⟩
  · rintro ⟨m, hm, n, hn, hm1, hn1, hne⟩
    have ha1 : (m : Int) ≠ 1 := by omega
    have hb1 : (n : Int) ≠ 1 := by omega
    exact ⟨m, (mem_pieceLengths h ha1).2 ⟨m, hm, rfl⟩, n, (mem_pieceLengths h hb1).2 ⟨n, hn, rfl⟩,
      ha1, hb1, by omega⟩

theorem leastMultiple_natCast (sizes : List Nat) :
    leastMultiple (sizes.map fun n : Nat => (n : Int)) = sizes.foldr Nat.lcm 1 := by
  induction sizes with
  | nil => rfl
  | cons n sizes ih => exact congrArg (Nat.lcm n) ih

theorem leastMultiple_pieceLengths
    (h : List.Forall₂ (fun share piece => share.piece na = .ok piece) shares pieces) :
    leastMultiple (pieceLengths pieces) = rowsOf shares := by
  rw [rowsOf, ← leastMultiple_natCast]
  refine leastMultiple_congr fun n hn => ?_
  rw [mem_pieceLengths h hn, List.mem_map]
  simp only [eq_comm]

/-- The length of a vector divides the number of rows. -/
theorem dvd_rowsOf {items : List Value} {s : Store} (h : .vector items s ∈ shares) :
    items.length ∣ rowsOf shares := by
  have hmem : (items.length : Int) ∈ (vectorSizes shares).map fun n : Nat => (n : Int) :=
    List.mem_map.2 ⟨_, mem_vectorSizes.2 ⟨items, s, h, rfl⟩, rfl⟩
  rw [rowsOf, ← leastMultiple_natCast]
  exact leastMultiple_dvd_iff.1 dvd_rfl _ hmem

/-- Pieces that are gone over again and again make up the broadcast of their shares. -/
theorem isBroadcast_cycled
    (h : List.Forall₂ (fun share piece => share.piece na = .ok piece) shares pieces)
    (hne : [] ∉ pieces) :
    IsBroadcast na shares
      ((List.range (rowsOf shares)).map fun row => pieces.flatMap (cycled row)) where
  length_eq := by simp
  row i hi := by
    rw [List.length_map, List.length_range] at hi
    refine ⟨pieces.map (cycled i), ?_, ?_⟩
    · rw [List.forall₂_map_right_iff]
      clear hi
      induction h with
      | nil => exact .nil
      | cons hpiece _ ih =>
        rw [List.mem_cons, not_or] at hne
        exact .cons (showsAt_cycled hpiece (Ne.symm hne.1) i) (ih hne.2)
    · rw [List.getElem?_map, List.getElem?_range hi, Option.map_some, List.flatMap_def]
  uses items s hmem j hj := by
    rw [List.length_map, List.length_range]
    exact length_filter_mod_eq (dvd_rowsOf hmem) hj

end

/-! ## All outcomes -/

section

variable {apply : Text → Rendering Value} {l : Layout} {segments : List Segment}
  {shares : List Share} {s s' : Store}

/-- An element without a text is what the template fails by. -/
theorem renderSegments_of_fault (h : sharesOf apply segments s = (.ok shares, s'))
    (htexts : ¬ ∀ share ∈ shares, share.HasTexts l.na) :
    ∃ items at_ v fault, .vector items at_ ∈ shares ∧ v ∈ items ∧
      at_.elementText l.na v = .error fault ∧
      renderSegments apply l segments s = (.error (.fault fault), at_) := by
  cases hpieces : shares.mapM (Share.piece l.na) with
  | ok pieces =>
    -- all pieces together have the texts of all elements
    refine absurd (fun share hshare => ?_) htexts
    obtain ⟨piece, -, hpiece⟩ := exists_right_of_mem (mapM_eq_ok_iff.1 hpieces) hshare
    exact hasTexts_of_piece hpiece
  | error e =>
    obtain ⟨fault, after⟩ := e
    obtain ⟨share, hshare, hfault⟩ := exists_of_mapM_eq_error hpieces
    obtain ⟨items, v, rfl, hv, hfault⟩ := exists_of_piece_eq_error hfault
    refine ⟨items, after, v, fault, hshare, hv, hfault, ?_⟩
    have hrun := mapM_segmentTexts h l.na
    rw [hpieces] at hrun
    exact Run.bind_of_error hrun

/-- Once all elements have their texts, the rows are put together from these. -/
theorem renderSegments_of_texts (h : sharesOf apply segments s = (.ok shares, s'))
    (htexts : ∀ share ∈ shares, share.HasTexts l.na) :
    ∃ pieces, List.Forall₂ (fun share piece => share.piece l.na = .ok piece) shares pieces ∧
      renderSegments apply l segments s = assemble l.broadcast pieces s' := by
  cases hpieces : shares.mapM (Share.piece l.na) with
  | error e =>
    obtain ⟨share, hshare, hfault⟩ := exists_of_mapM_eq_error hpieces
    obtain ⟨piece, hpiece⟩ := piece_eq_ok (htexts share hshare)
    rw [hpiece] at hfault
    exact absurd hfault (by simp)
  | ok pieces =>
    have hrun := mapM_segmentTexts h l.na
    rw [hpieces] at hrun
    exact ⟨pieces, mapM_eq_ok_iff.1 hpieces, Run.bind_of_ok hrun⟩

/-- The rows of a template whose blocks have vectors. An element without a text makes it fail. If a
vector is empty, there are no rows at all; else lengths that differ are refused under the strict
policy and only then, and in all other cases the rows are a broadcast of the shares. -/
theorem renderSegments_shares (h : sharesOf apply segments s = (.ok shares, s')) :
    (¬ (∀ share ∈ shares, share.HasTexts l.na) →
      ∃ items at_ v fault, .vector items at_ ∈ shares ∧ v ∈ items ∧
        at_.elementText l.na v = .error fault ∧
        renderSegments apply l segments s = (.error (.fault fault), at_)) ∧
    ((∀ share ∈ shares, share.HasTexts l.na) →
      (0 ∈ vectorSizes shares → renderSegments apply l segments s = (.ok [], s')) ∧
      (0 ∉ vectorSizes shares →
        ((∃ e after, renderSegments apply l segments s = (.error (.broadcast e), after)) ↔
          l.broadcast = .strict ∧ SizesDiffer shares) ∧
        (¬ (l.broadcast = .strict ∧ SizesDiffer shares) →
          ∃ rows after, renderSegments apply l segments s = (.ok rows, after) ∧
            IsBroadcast l.na shares rows))) := by
  refine ⟨renderSegments_of_fault h, fun htexts => ?_⟩
  obtain ⟨pieces, hpieces, hrun⟩ := renderSegments_of_texts h htexts
  rw [hrun]
  refine ⟨fun hzero => ?_, fun hzero => ?_⟩
  · have hcount := rowCount_of_zero l.broadcast ((zero_mem_pieceLengths hpieces).2 hzero)
    rw [assemble_of_ok hcount, recycle?_zero]
    simp [Store.noting]
  · -- pieces have the lengths of the shares that they are the texts of
    have hzero' : 0 ∉ pieceLengths pieces := fun hc => hzero ((zero_mem_pieceLengths hpieces).1 hc)
    have hne : [] ∉ pieces := fun hc => hzero' (List.mem_map.2 ⟨[], hc, rfl⟩)
    have hok (hpolicy : ¬ (l.broadcast = .strict ∧ SizesDiffer shares)) :
        ∃ rows after, assemble l.broadcast pieces s' = (.ok rows, after) ∧
          IsBroadcast l.na shares rows := by
      rw [← differ_pieceLengths hpieces] at hpolicy
      have hcount := rowCount_eq_ok hzero' hpolicy
      rw [leastMultiple_pieceLengths hpieces] at hcount
      refine ⟨_, _, assemble_of_ok hcount s', ?_⟩
      rw [recycle?_eq hne, Option.getD_some]
      exact isBroadcast_cycled hpieces hne
    refine ⟨⟨?_, ?_⟩, hok⟩
    · rintro ⟨e, after, herror⟩
      by_contra hpolicy
      obtain ⟨rows, after', hrows, -⟩ := hok hpolicy
      rw [hrows] at herror
      exact Run.ok_ne_error herror
    · rintro ⟨hstrict, hdiffer⟩
      have hcount := rowCount_eq_error hzero' ((differ_pieceLengths hpieces).2 hdiffer)
      rw [hstrict]
      exact ⟨_, _, assemble_of_error hcount s'⟩

end

/-- A literal, two elements, of which one is missing, and a single element. -/
theorem renderSegments_shares_two_by_one :
    let apply : Text → Rendering Value := fun text =>
      if text = ['a'] then return .tuple [.bool true, .none] else return .text ['u']
    let segments : List Segment :=
      [.literal ['x'] ['x'], .expression ['a'] 1 4, .expression ['b'] 4 7]
    let shares : List Share :=
      [.literal ['x'], .vector [.bool true, .none] .empty, .vector [.text ['u']] .empty]
    sharesOf apply segments .empty = (.ok shares, .empty) ∧
      (∀ share ∈ shares, share.HasTexts Layout.standard.na) ∧
      ∃ rows after, renderSegments apply .standard segments .empty = (.ok rows, after) ∧
        IsBroadcast Layout.standard.na shares rows := by
  intro apply segments shares
  have h : sharesOf apply segments .empty = (.ok shares, .empty) := rfl
  have htexts : ∀ share ∈ shares, share.HasTexts Layout.standard.na := by
    intro share hshare
    simp only [shares, List.mem_cons, List.not_mem_nil, or_false] at hshare
    obtain rfl | rfl | rfl := hshare
    · trivial
    · intro v hv
      simp only [List.mem_cons, List.not_mem_nil, or_false] at hv
      obtain rfl | rfl := hv
      · exact ⟨"True".toList, rfl⟩
      · exact ⟨"NA".toList, rfl⟩
    · intro v hv
      obtain rfl := List.mem_singleton.1 hv
      exact ⟨['u'], rfl⟩
  have hall := (renderSegments_shares (l := .standard) h).2 htexts
  refine ⟨h, htexts, (hall.2 ?_).2 ?_⟩
  · decide
  · rintro ⟨hstrict, -⟩
    exact absurd hstrict (by decide)

/-- A vector without elements beside a number that is too long to be written. -/
theorem renderSegments_empty_beside_unwritable :
    let apply : Text → Rendering Value := fun text => evaluate text .nothing
    let segments : List Segment :=
      [.expression "[]".toList 0 4, .expression "10**5000".toList 4 14]
    ∃ shares s', sharesOf apply segments .empty = (.ok shares, s') ∧ 0 ∈ vectorSizes shares ∧
      ∀ after, renderSegments apply .standard segments .empty ≠ (.ok [], after) := by
  intro apply segments
  have hempty : (match sharesOf apply segments .empty with
      | (.ok shares, _) => decide (0 ∈ vectorSizes shares)
      | (.error _, _) => false) = true := by
    decide +kernel
  have hrows : (match renderSegments apply .standard segments .empty with
      | (.ok _, _) => false
      | (.error _, _) => true) = true := by
    decide +kernel
  rcases hshares : sharesOf apply segments .empty with ⟨_ | shares, s'⟩
  · rw [hshares] at hempty
    exact absurd hempty (by simp)
  · rw [hshares] at hempty
    refine ⟨shares, s', rfl, of_decide_eq_true hempty, fun after hafter => ?_⟩
    rw [hafter] at hrows
    exact absurd hrows (by simp)

end Stencil
