import Stencil.Proofs.Moved.Block
import Stencil.Proofs.Render.Rows
import Stencil.Proofs.Template.Concatenation
import Stencil.Render.Call

/-!
# Rows of joined templates

The rows of a template that is joined from two are those of both side by side
(`Call.render_append`). The seam may fall into literal text, and the two may have different numbers
of rows: going over all vectors at once comes to the same as going over the rows of either part
(`rowsOfPieces_append`). Blocks of the second part find more in the store than they would alone,
which makes no difference to them (`Call.Grounded.mapM_segmentTexts`), unless the first part changed
what was there already.
-/

namespace Stencil

open Template (Segment joinSegments pushLiteral parse parse_append)

/-! ## Rows of pieces -/

/-- The rows that pieces make up. -/
def rowsOfPieces (pieces : List (List Text)) : List Text :=
  (List.range (leastMultiple (pieceLengths pieces))).map fun row => pieces.flatMap (cycled row)

/-- The rows of one template beside those of another, both gone over again and again. -/
def joinRows (first second : List Text) : List Text :=
  (List.range (Nat.lcm first.length second.length)).map fun row =>
    cycled row first ++ cycled row second

theorem leastMultiple_append (l m : List Int) :
    leastMultiple (l ++ m) = Nat.lcm (leastMultiple l) (leastMultiple m) := by
  induction l with
  | nil => simp [leastMultiple]
  | cons n l ih =>
    have hcons (l : List Int) : leastMultiple (n :: l) = Nat.lcm n.natAbs (leastMultiple l) := rfl
    rw [List.cons_append, hcons, hcons, ih, Nat.lcm_assoc]

theorem length_rowsOfPieces (pieces : List (List Text)) :
    (rowsOfPieces pieces).length = leastMultiple (pieceLengths pieces) := by
  simp [rowsOfPieces]

/-- A row has the same texts as the one it comes to after starting over. -/
theorem cycled_rowsOfPieces {pieces : List (List Text)} (row : Nat)
    (h : 0 < leastMultiple (pieceLengths pieces)) :
    cycled row (rowsOfPieces pieces) = pieces.flatMap (cycled row) := by
  have hrow : row % leastMultiple (pieceLengths pieces) < leastMultiple (pieceLengths pieces) :=
    Nat.mod_lt row h
  have hpiece : ∀ piece ∈ pieces,
      cycled (row % leastMultiple (pieceLengths pieces)) piece = cycled row piece := by
    intro piece hmem
    have hdvd : piece.length ∣ leastMultiple (pieceLengths pieces) :=
      leastMultiple_dvd_iff.1 dvd_rfl (piece.length : Int) (List.mem_map.2 ⟨piece, hmem, rfl⟩)
    rw [cycled, cycled, Nat.mod_mod_of_dvd row hdvd]
  rw [cycled, length_rowsOfPieces, rowsOfPieces, List.getElem?_map, List.getElem?_range hrow,
    Option.map_some, Option.getD_some]
  exact List.flatMap_congr hpiece

/-- Going over all pieces at once is going over the rows of two parts. -/
theorem rowsOfPieces_append (p q : List (List Text)) :
    rowsOfPieces (p ++ q) = joinRows (rowsOfPieces p) (rowsOfPieces q) := by
  have hsize : leastMultiple (pieceLengths (p ++ q)) =
      Nat.lcm (leastMultiple (pieceLengths p)) (leastMultiple (pieceLengths q)) := by
    rw [← leastMultiple_append, pieceLengths, List.map_append]
    rfl
  rw [joinRows, length_rowsOfPieces, length_rowsOfPieces, ← hsize, rowsOfPieces]
  refine List.map_congr_left fun row hrow => ?_
  -- where there is a row at all, both parts have rows
  have hpos : 0 < Nat.lcm (leastMultiple (pieceLengths p)) (leastMultiple (pieceLengths q)) := by
    rw [List.mem_range, hsize] at hrow
    omega
  have hp : 0 < leastMultiple (pieceLengths p) := Nat.pos_of_ne_zero fun h0 => by simp [h0] at hpos
  have hq : 0 < leastMultiple (pieceLengths q) := Nat.pos_of_ne_zero fun h0 => by simp [h0] at hpos
  rw [cycled_rowsOfPieces row hp, cycled_rowsOfPieces row hq, List.flatMap_append]

theorem length_joinRows (first second : List Text) :
    (joinRows first second).length = Nat.lcm first.length second.length := by
  simp [joinRows]

theorem joinRows_of_empty {first second : List Text} (h : first = [] ∨ second = []) :
    joinRows first second = [] := by
  obtain rfl | rfl := h <;> simp [joinRows]

/-- Each row is one of the first rows and one of the second, both gone over again and again. -/
theorem getElem?_joinRows {first second : List Text} {i : Nat}
    (hi : i < (joinRows first second).length) :
    ∃ u v, first[i % first.length]? = some u ∧ second[i % second.length]? = some v ∧
      (joinRows first second)[i]? = some (u ++ v) := by
  rw [length_joinRows] at hi
  have hfirst : 0 < first.length :=
    Nat.pos_of_ne_zero fun h0 => by simp [h0] at hi
  have hsecond : 0 < second.length :=
    Nat.pos_of_ne_zero fun h0 => by simp [h0] at hi
  have hu := List.getElem?_eq_getElem (Nat.mod_lt i hfirst)
  have hv := List.getElem?_eq_getElem (Nat.mod_lt i hsecond)
  refine ⟨_, _, hu, hv, ?_⟩
  rw [joinRows, List.getElem?_map, List.getElem?_range hi, Option.map_some, cycled, cycled, hu, hv]
  rfl

/-- When shorter vectors start over, pieces always make up rows. -/
theorem assemble_recycle (pieces : List (List Text)) (s : Store) :
    ∃ uneven, assemble .recycle pieces s = (.ok (rowsOfPieces pieces), s.noting uneven) := by
  by_cases hzero : 0 ∈ pieceLengths pieces
  · have hcount := rowCount_of_zero .recycle hzero
    have hnone : leastMultiple (pieceLengths pieces) = 0 := by
      have := leastMultiple_dvd_iff.1 dvd_rfl 0 hzero
      exact Nat.eq_zero_of_zero_dvd this
    refine ⟨none, ?_⟩
    rw [assemble_of_ok hcount, recycle?_zero, rowsOfPieces, hnone]
    rfl
  · have hcount : rowCount .recycle (pieceLengths pieces) = .ok _ :=
      rowCount_eq_ok hzero fun h => absurd h.1 (by decide)
    have hne : [] ∉ pieces := fun hc => hzero (List.mem_map.2 ⟨[], hc, rfl⟩)
    exact ⟨_, by rw [assemble_of_ok hcount, recycle?_eq hne]; rfl⟩

/-! ## Pieces of joined segments -/

/-- Pieces that make up the same rows: the same texts in every row, and the same lengths beside
one. -/
structure SamePieces (p q : List (List Text)) : Prop where
  texts : ∀ row, p.flatMap (cycled row) = q.flatMap (cycled row)
  lengths : ∀ n, n ≠ 1 → (n ∈ pieceLengths p ↔ n ∈ pieceLengths q)

namespace SamePieces

variable {p q r : List (List Text)}

theorem refl (p : List (List Text)) : SamePieces p p := ⟨fun _ => rfl, fun _ _ => Iff.rfl⟩

theorem trans (h : SamePieces p q) (h' : SamePieces q r) : SamePieces p r :=
  ⟨fun row => (h.texts row).trans (h'.texts row),
    fun n hn => (h.lengths n hn).trans (h'.lengths n hn)⟩

theorem cons (piece : List Text) (h : SamePieces p q) : SamePieces (piece :: p) (piece :: q) := by
  refine ⟨fun row => ?_, fun n hn => ?_⟩
  · rw [List.flatMap_cons, List.flatMap_cons, h.texts]
  · have hp : pieceLengths (piece :: p) = (piece.length : Int) :: pieceLengths p := rfl
    have hq : pieceLengths (piece :: q) = (piece.length : Int) :: pieceLengths q := rfl
    rw [hp, hq, List.mem_cons, List.mem_cons, h.lengths n hn]

/-- Two texts that are shown in every row are one. -/
theorem merge (s t : Text) (p : List (List Text)) :
    SamePieces ([s ++ t] :: p) ([s] :: [t] :: p) := by
  refine ⟨fun row => ?_, fun n hn => ?_⟩
  · simp [cycled, Nat.mod_one]
  · simp [pieceLengths, hn]

theorem rows_eq (h : SamePieces p q) : rowsOfPieces p = rowsOfPieces q := by
  rw [rowsOfPieces, rowsOfPieces, leastMultiple_congr h.lengths]
  exact List.map_congr_left fun row _ => h.texts row

end SamePieces

section

variable {apply : Text → Rendering Value} {na : Text} {s s' s'' : Store}

theorem mapM_cons_eq_ok {segment : Segment} {segments : List Segment}
    {pieces : List (List Text)} :
    ((segment :: segments).mapM (segmentTexts apply na)) s = (.ok pieces, s'') ↔
      ∃ piece rest s', segmentTexts apply na segment s = (.ok piece, s') ∧
        (segments.mapM (segmentTexts apply na)) s' = (.ok rest, s'') ∧ pieces = piece :: rest := by
  rw [List.mapM_cons, Run.bind_eq_ok_iff]
  constructor
  · rintro ⟨piece, s₁, hpiece, h⟩
    obtain ⟨rest, s₂, hrest, h⟩ := Run.bind_eq_ok_iff.1 h
    obtain ⟨rfl, rfl⟩ : piece :: rest = pieces ∧ s₂ = s'' := Run.ok_inj h
    exact ⟨piece, rest, s₁, hpiece, hrest, rfl⟩
  · rintro ⟨piece, rest, s₁, hpiece, hrest, rfl⟩
    exact ⟨piece, s₁, hpiece, Run.bind_of_ok hrest⟩

/-- Literal text in front of segments is a piece in front of theirs. -/
theorem mapM_pushLiteral (text raw : Text) {segments : List Segment} {pieces : List (List Text)}
    (h : (segments.mapM (segmentTexts apply na)) s = (.ok pieces, s')) :
    ∃ all, ((pushLiteral text raw segments).mapM (segmentTexts apply na)) s = (.ok all, s') ∧
      SamePieces all ([text] :: pieces) := by
  have hnew : ∃ all, ((.literal text raw :: segments).mapM (segmentTexts apply na)) s =
      (.ok all, s') ∧ SamePieces all ([text] :: pieces) :=
    ⟨_, mapM_cons_eq_ok.2 ⟨[text], pieces, s, rfl, h, rfl⟩, .refl _⟩
  cases segments with
  | nil => exact hnew
  | cons segment segments =>
    cases segment with
    | expression own start stop => exact hnew
    | literal own raw' =>
      obtain ⟨piece, rest, s₁, hpiece, hrest, rfl⟩ := mapM_cons_eq_ok.1 h
      obtain ⟨rfl, rfl⟩ : [own] = piece ∧ s = s₁ := Run.ok_inj hpiece
      exact ⟨_, mapM_cons_eq_ok.2 ⟨[text ++ own], rest, s, rfl, hrest, rfl⟩, .merge text own rest⟩

/-- The pieces of joined segments make up the same rows as those of both parts, one after the
other. -/
theorem mapM_joinSegments {first second : List Segment} {p q : List (List Text)}
    (hfirst : (first.mapM (segmentTexts apply na)) s = (.ok p, s'))
    (hsecond : (second.mapM (segmentTexts apply na)) s' = (.ok q, s'')) :
    ∃ all, ((joinSegments first second).mapM (segmentTexts apply na)) s = (.ok all, s'') ∧
      SamePieces all (p ++ q) := by
  induction first generalizing s p with
  | nil =>
    obtain ⟨rfl, rfl⟩ : [] = p ∧ s = s' := Run.ok_inj hfirst
    exact ⟨q, hsecond, .refl q⟩
  | cons segment first ih =>
    obtain ⟨piece, rest, s₁, hpiece, hrest, rfl⟩ := mapM_cons_eq_ok.1 hfirst
    obtain ⟨tail, htail, hsame⟩ := ih hrest
    cases segment with
    | literal text raw =>
      obtain ⟨rfl, rfl⟩ : [text] = piece ∧ s = s₁ := Run.ok_inj hpiece
      obtain ⟨all, hall, hpushed⟩ := mapM_pushLiteral text raw htail
      exact ⟨all, hall, hpushed.trans (hsame.cons [text])⟩
    | expression text start stop =>
      exact ⟨_, mapM_cons_eq_ok.2 ⟨piece, tail, s₁, hpiece, htail, rfl⟩, hsame.cons piece⟩

end

/-- When shorter vectors start over, segments that all have texts make up rows. -/
theorem renderSegments_of_pieces {apply : Text → Rendering Value} {l : Layout}
    {segments : List Segment} {pieces : List (List Text)} {s s' : Store}
    (hpolicy : l.broadcast = .recycle)
    (h : (segments.mapM (segmentTexts apply l.na)) s = (.ok pieces, s')) :
    ∃ uneven, renderSegments apply l segments s =
      (.ok (rowsOfPieces pieces), s'.noting uneven) := by
  obtain ⟨uneven, hrows⟩ := assemble_recycle pieces s'
  rw [← hpolicy] at hrows
  exact ⟨uneven, (Run.bind_of_ok h).trans hrows⟩

theorem pieces_of_renderSegments {apply : Text → Rendering Value} {l : Layout}
    {segments : List Segment} {rows : List Text} {s s' : Store} (hpolicy : l.broadcast = .recycle)
    (h : renderSegments apply l segments s = (.ok rows, s')) :
    ∃ pieces s₁ uneven, (segments.mapM (segmentTexts apply l.na)) s = (.ok pieces, s₁) ∧
      rows = rowsOfPieces pieces ∧ s' = s₁.noting uneven := by
  obtain ⟨pieces, s₁, hpieces, -⟩ := Run.bind_eq_ok_iff.1 h
  obtain ⟨uneven, hrows⟩ := renderSegments_of_pieces hpolicy hpieces
  obtain ⟨rfl, rfl⟩ := Run.ok_inj (h.symm.trans hrows)
  exact ⟨pieces, s₁, uneven, hpieces, rfl, rfl⟩

theorem mapM_moved {apply : Text → Rendering Value} (na : Text) (k : Nat)
    (segments : List Segment) :
    (segments.map (Segment.moved k)).mapM (segmentTexts apply na) =
      segments.mapM (segmentTexts apply na) := by
  rw [List.mapM_map]
  congr 1
  funext segment
  cases segment <;> rfl

/-! ## Calls -/

namespace Call

/-- A call with another template. -/
def withTemplate (c : Call) (t : Text) : Call := { c with template := .whole t }

/-- A store has all that is referred to in it and in a call: no place that is not there, and no mark
that was not given yet. A gap behind the store moves none of that. -/
structure Grounded (c : Call) (s : Store) : Prop where
  store : ∀ width markWidth, s.Stays (s.gap width markWidth)
  context : ∀ context, c.context.toContext = .ok context →
    ∀ width markWidth, context.Stays (s.gap width markWidth)
  names : ∀ width markWidth, Table.Stays (s.gap width markWidth) c.names

/-- A call without a transformer of its own renders segments with the names that it sees at the
start. -/
theorem render_standard_eq_ok_iff {c : Call} {options : OptionsSource} {o : Options}
    {rows : List Text} {s s' : Store} (ho : options.toOptions = .ok o)
    (htransformer : o.transformer = .standard) :
    c.render options s = (.ok rows, s') ↔
      ∃ context bound segments, (c.refuse parameters = .ok () ∧
        c.context.toContext = .ok context ∧ context.bind c.names = .ok bound) ∧
        o.layout.prepare c.template = .ok segments ∧
        renderSegments (fun text => evaluate text (.context (bound.freeze s)))
          o.layout segments s = (.ok rows, s') := by
  simp only [render, Run.ofExcept_bind_eq_ok_iff, ho]
  have hget {α : Type} (f : Store → Rendering α) : (get >>= f) s = f s s := rfl
  simp only [Call.rows, Run.ofExcept_bind_eq_ok_iff, mapError_eq_ok_iff, hget]
  constructor
  · rintro ⟨⟨⟩, hrefuse, o', ho', segments, hsegments, context, hcontext, bound, hbound, t, ht,
      hrun⟩
    obtain rfl := Except.ok.inj ho'
    rw [htransformer] at ht
    obtain rfl := Except.ok.inj ht
    exact ⟨context, bound, segments, ⟨hrefuse, hcontext, hbound⟩, hsegments, hrun⟩
  · rintro ⟨context, bound, segments, ⟨hrefuse, hcontext, hbound⟩, hsegments, hrun⟩
    refine ⟨(), hrefuse, o, rfl, segments, hsegments, context, hcontext, bound, hbound, .identity,
      ?_, hrun⟩
    rw [htransformer]
    rfl

/-- Blocks that see the names of a call give the same texts after others have left alone what there
was at first. -/
theorem Grounded.mapM_segmentTexts {c : Call} {context bound : Context} {s s₁ s₂ : Store}
    {first second : List Segment} {p q : List (List Text)} (h : c.Grounded s)
    (hcontext : c.context.toContext = .ok context) (hbound : context.bind c.names = .ok bound)
    (na : Text) :
    let apply := fun text => evaluate text (.context (bound.freeze s))
    (first.mapM (segmentTexts apply na)) s = (.ok p, s₁) →
    (∀ r < s.cells.size, s₁.cells[r]? = s.cells[r]?) →
    (second.mapM (segmentTexts apply na)) s = (.ok q, s₂) →
    ∃ s₃, (second.mapM (segmentTexts apply na)) s₁ = (.ok q, s₃) := by
  intro apply hfirst hkept hsecond
  have hmoved (width markWidth : Nat) (segments : List Segment) :
      Run.Follows (s.gap width markWidth) id (segments.mapM (segmentTexts apply na))
        (segments.mapM (segmentTexts apply na)) := by
    have hnames := (h.context context hcontext width markWidth).withNames (h.names width markWidth)
    rw [(Context.bind_eq_ok_iff.1 hbound).2] at hnames
    exact mapM_segmentTexts_moved (evaluate_freeze_moved hnames (h.store width markWidth)) na
      segments
  -- a gap of no width shows that the first blocks take nothing away
  obtain ⟨hsize, hmarks, hmachine⟩ := (hmoved 0 0 first).grows (h.store 0 0)
  rw [hfirst] at hsize hmarks hmachine
  have hagain := Run.Follows.again h.store (hmoved · · second) hsize hmarks hmachine hkept
  rw [hsecond] at hagain
  exact ⟨((second.mapM (segmentTexts apply na)) s₁).2, Prod.ext hagain rfl⟩

/-- The rows of two templates joined are those of both side by side, gone over until both end
together, unless the second starts with the closing delimiter or a block of the first changes what
is there already. -/
theorem render_append {c : Call} {options : OptionsSource} {o : Options} {a b : Char}
    {t₁ t₂ : Text} {rows₁ rows₂ : List Text} {s s₁ s₂ : Store}
    (ho : options.toOptions = .ok o) (hopening : o.layout.rules.opening = [a])
    (hclosing : o.layout.rules.closing = [b]) (htrim : o.layout.trim = false)
    (hpolicy : o.layout.broadcast = .recycle) (htransformer : o.transformer = .standard)
    (hseam : t₂.head? ≠ some b) (hgrounded : c.Grounded s)
    (h₁ : (c.withTemplate t₁).render options s = (.ok rows₁, s₁))
    (hkept : ∀ r < s.cells.size, s₁.cells[r]? = s.cells[r]?)
    (h₂ : (c.withTemplate t₂).render options s = (.ok rows₂, s₂)) :
    ∃ rows s', (c.withTemplate (t₁ ++ t₂)).render options s = (.ok rows, s') ∧
      (rows₁ = [] ∨ rows₂ = [] → rows = []) ∧
      rows.length = Nat.lcm rows₁.length rows₂.length ∧
      ∀ i < rows.length, ∃ u v, rows₁[i % rows₁.length]? = some u ∧
        rows₂[i % rows₂.length]? = some v ∧ rows[i]? = some (u ++ v) := by
  have hprepare (t : Text) :
      o.layout.prepare (c.withTemplate t).template = parse o.layout.rules t := by
    simp [Layout.prepare, htrim, withTemplate, TemplateSource.join]
  obtain ⟨context, bound, first, hcall, hfirst, hrun₁⟩ :=
    (render_standard_eq_ok_iff ho htransformer).1 h₁
  obtain ⟨context', bound', second, ⟨-, hcontext', hbound'⟩, hsecond, hrun₂⟩ :=
    (render_standard_eq_ok_iff ho htransformer).1 h₂
  obtain rfl : context = context' := Except.ok.inj (hcall.2.1.symm.trans hcontext')
  obtain rfl : bound = bound' := Except.ok.inj (hcall.2.2.symm.trans hbound')
  rw [hprepare] at hfirst hsecond
  -- notices that the first template gives are not in the store that its blocks leave
  obtain ⟨p, s₁', uneven, hp, rfl, rfl⟩ := pieces_of_renderSegments hpolicy hrun₁
  obtain ⟨q, s₂', uneven', hq, rfl, rfl⟩ := pieces_of_renderSegments hpolicy hrun₂
  -- the second template does again after the first what it does alone
  obtain ⟨s₃, hq⟩ := hgrounded.mapM_segmentTexts hcontext' hbound' o.layout.na hp hkept hq
  rw [← mapM_moved _ t₁.length] at hq
  obtain ⟨all, hall, hsame⟩ := mapM_joinSegments hp hq
  have hstart : ¬ o.layout.rules.closing <+: t₂ := by
    rw [hclosing]
    rintro ⟨rest, rfl⟩
    exact hseam rfl
  have hparse := parse_append hopening hclosing hfirst hsecond hstart
  obtain ⟨uneven'', hrows⟩ := renderSegments_of_pieces hpolicy hall
  rw [hsame.rows_eq, rowsOfPieces_append] at hrows
  exact ⟨_, _, (render_standard_eq_ok_iff ho htransformer).2
    ⟨context, bound, _, hcall, (hprepare _).trans hparse, hrows⟩, joinRows_of_empty,
    length_joinRows _ _, fun i hi => getElem?_joinRows hi⟩

theorem eq_trueFalse_of_match {c : Option Cell}
    (h : (match c with | some (.list [.bool true, .bool false]) => true | _ => false) = true) :
    c = some (.list [.bool true, .bool false]) := by
  split at h
  · rfl
  · exact absurd h (by simp)

/-- A list of two elements beside three, with literal text at the seam. -/
theorem render_append_two_by_three :
    let s : Store := Store.empty.push (.list [.bool true, .bool false])
    let o : Options := ⟨{ Layout.standard with trim := false }, .standard⟩
    let c : Call := ⟨.installed, .whole [], .nothing,
      [(['x'], .list 0), (['y'], .tuple [.int 1, .none, .int 3])]⟩
    c.Grounded s ∧ ∃ rows s',
      (c.withTemplate ("{x}-".toList ++ "-{y}".toList)).render (.options o) s = (.ok rows, s') ∧
        rows.length = 6 ∧ rows[4]? = some "True--NA".toList := by
  intro s o c
  have hgrounded : c.Grounded s := by
    refine ⟨fun width markWidth cell hcell => ?_, fun context hcontext width markWidth => ?_,
      fun width markWidth p hp => ?_⟩
    · obtain rfl := Array.mem_singleton.1 hcell
      rfl
    · obtain rfl := Except.ok.inj hcontext
      constructor <;> simp [Table.Stays, Context.empty]
    · simp only [c, List.mem_cons, List.not_mem_nil, or_false] at hp
      obtain rfl | rfl := hp
      · rfl
      · rfl
  have h₁ : ((c.withTemplate "{x}-".toList).render (.options o) s).1 =
      .ok ["True-".toList, "False-".toList] := by
    apply eq_ok_of_match
    decide +kernel
  have h₂ : ((c.withTemplate "-{y}".toList).render (.options o) s).1 =
      .ok ["-1".toList, "-NA".toList, "-3".toList] := by
    apply eq_ok_of_match
    decide +kernel
  have hkept : ∀ r < s.cells.size,
      ((c.withTemplate "{x}-".toList).render (.options o) s).2.cells[r]? = s.cells[r]? := by
    intro r hr
    obtain rfl : r = 0 := Nat.lt_one_iff.1 hr
    apply eq_trueFalse_of_match
    decide +kernel
  have hoptions : (OptionsSource.options o).toOptions = .ok o := rfl
  obtain ⟨rows, s', hrows, -, hlength, hrow⟩ :=
    render_append hoptions rfl rfl rfl rfl rfl (by decide) hgrounded (Prod.ext h₁ rfl) hkept
      (Prod.ext h₂ rfl)
  refine ⟨hgrounded, rows, s', hrows, hlength, ?_⟩
  have hfourth : 4 < rows.length := by
    rw [hlength]
    decide
  obtain ⟨u, v, hu, hv, huv⟩ := hrow 4 hfourth
  obtain rfl := Option.some.inj hu
  obtain rfl := Option.some.inj hv
  exact huv

/-- A list that the first template appends to is longer for the second. -/
theorem render_append_changed_list :
    let s : Store := Store.empty.push (.list [])
    let o : Options := ⟨{ Layout.standard with trim := false }, .standard⟩
    let c : Call := ⟨.installed, .whole [], .nothing, [(['x'], .list 0)]⟩
    ((c.withTemplate "{x.append(1)}".toList).render (.options o) s).1 = .ok ["NA".toList] ∧
      ((c.withTemplate "{len(x)}".toList).render (.options o) s).1 = .ok ["0".toList] ∧
      ((c.withTemplate ("{x.append(1)}".toList ++ "{len(x)}".toList)).render (.options o) s).1 =
        .ok ["NA1".toList] ∧
      "NA1".toList ≠ "NA".toList ++ "0".toList := by
  refine ⟨?_, ?_, ?_, ?_⟩
  · apply eq_ok_of_match
    decide +kernel
  · apply eq_ok_of_match
    decide +kernel
  · apply eq_ok_of_match
    decide +kernel
  · decide

end Call
end Stencil
