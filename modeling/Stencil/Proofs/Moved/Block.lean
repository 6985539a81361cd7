import Stencil.Proofs.Moved.Eval
import Stencil.Render.Layout

/-!
# Blocks beside what others leave behind

A block that sees only what a store had at some time gives the same texts after other blocks have
put more into the store, as long as they left alone what was there (`segmentTexts_moved`,
`Store.Stays.moved_of_kept`): what they put in is a gap before all that the block puts in itself.
-/

namespace Stencil

open Run (Follows)
open Template (Segment)

/-! ## What stays where it is -/

/-- The gap that is left behind all that a store has. -/
def Store.gap (s : Store) (width markWidth : Nat) : Gap :=
  ⟨s.cells.size, width, s.marks, markWidth, s.machine⟩

section

variable (g : Gap)

/-- The values of names refer to nothing behind a gap. -/
def Table.Stays (t : Table) : Prop := ∀ p ∈ t, movedNamed g p = p

/-- Nothing stored refers to anything behind a gap. -/
def Store.Stays (s : Store) : Prop := ∀ c ∈ s.cells, c.moved g = c

/-- The values of a scope refer to nothing behind a gap. A dictionary may hold anything: what it
holds is in the store. What a mapping finds refers to nothing there if the store does not. -/
def Layer.Stays : Layer → Prop
  | fixed t => Table.Stays g t
  | live _ => True
  | mapping m => ∀ s : Store, s.Stays g → ∀ x v, m.find? s x = some v → v.moved g = v

/-- The values that a context gives names refer to nothing behind a gap. -/
structure Context.Stays (c : Context) : Prop where
  names : Table.Stays g c.names
  data : Table.Stays g c.data
  scopes : ∀ l ∈ c.scopes, l.Stays g

end

variable {g : Gap} {s t : Store}

theorem Store.Stays.entry (hs : s.Stays g) {r : Ref} {e : Value × Value} (he : e ∈ s.entries r) :
    movedEntry g e = e := by
  unfold Store.entries Store.dictionary at he
  rcases hr : s.cells[r]? with _ | c
  · rw [hr] at he
    exact absurd he (by simp [Dictionary.entries, Dictionary.empty])
  · rw [hr] at he
    have hc := hs c (Array.mem_of_getElem? hr)
    cases c with
    | dict d =>
      have hd : (d.moved g).entries = d.entries := congrArg Dictionary.entries (Cell.dict.inj hc)
      rw [Dictionary.entries_moved] at hd
      exact map_eq_self_iff.1 hd e he
    | _ => exact absurd he (by simp [Dictionary.entries, Dictionary.empty])

theorem Store.Stays.table (hs : s.Stays g) (r : Ref) : Table.Stays g (s.table r) := by
  intro p hp
  obtain ⟨⟨k, v⟩, he, hp⟩ := List.mem_filterMap.1 hp
  obtain ⟨x, -, rfl⟩ := Option.map_eq_some_iff.1 hp
  have hv : v.moved g = v := congrArg Prod.snd (hs.entry he)
  exact congrArg (Prod.mk x) hv

theorem Table.mem_put {t : Table} {x : Text} {v : Value} {p : Text × Value}
    (h : p ∈ t.put x v) : p = (x, v) ∨ p ∈ t := by
  induction t with
  | nil => exact .inl (List.mem_singleton.1 h)
  | cons q t ih =>
    obtain ⟨y, w⟩ := q
    rw [Table.put] at h
    split at h
    · rename_i hy
      rcases List.mem_cons.1 h with rfl | h
      · exact .inl (congrArg (·, v) hy)
      · exact .inr (List.mem_cons_of_mem _ h)
    · rcases List.mem_cons.1 h with rfl | h
      · exact .inr List.mem_cons_self
      · exact (ih h).imp_right (List.mem_cons_of_mem _)

theorem Table.Stays.overlay {names top : Table} (hnames : Table.Stays g names)
    (htop : Table.Stays g top) : Table.Stays g (names.overlay top) := by
  have hput (names : Table) (q : Text × Value) (hnames : Table.Stays g names)
      (hq : movedNamed g q = q) : Table.Stays g (names.put q.1 q.2) := by
    intro p hp
    rcases Table.mem_put hp with rfl | hp
    · exact hq
    · exact hnames p hp
  induction top generalizing names with
  | nil => exact hnames
  | cons q top ih =>
    have hq : movedNamed g q = q := htop q List.mem_cons_self
    exact ih (hput names q hnames hq) fun p hp => htop p (List.mem_cons_of_mem q hp)

theorem Context.Stays.withNames {c : Context} {names : Table} (hc : c.Stays g)
    (hnames : Table.Stays g names) : (c.withNames names).Stays g :=
  ⟨hc.names.overlay hnames, hc.data, hc.scopes⟩

theorem Table.Stays.of_lookup {t : Table} (ht : Table.Stays g t) {x : Text} {v : Value}
    (hv : t.lookup x = some v) : v.moved g = v := by
  obtain ⟨before, after, rfl, -⟩ := List.lookup_eq_some_iff.1 hv
  exact congrArg Prod.snd (ht (x, v) (by simp))

theorem Layer.Stays.of_find? {l : Layer} (hl : l.Stays g) (hs : s.Stays g) {x : Text} {v : Value}
    (hv : l.find? s x = some v) : v.moved g = v := by
  cases l with
  | fixed t => exact Table.Stays.of_lookup hl hv
  | live r => exact (hs.table r).of_lookup hv
  | mapping m => exact hl s hs x v hv

theorem Context.Stays.flatten {c : Context} (hc : c.Stays g) (hs : s.Stays g) :
    Table.Stays g (c.flatten s) := by
  have hlayers : ∀ l ∈ c.layers, l.Stays g := by
    intro l hl
    rcases List.mem_cons.1 hl with rfl | hl
    · exact hc.names
    · rcases List.mem_cons.1 hl with rfl | hl
      · exact hc.data
      · exact hc.scopes l hl
  intro p hp
  obtain ⟨x, -, hp⟩ := List.mem_filterMap.1 hp
  obtain ⟨v, hv, rfl⟩ := Option.map_eq_some_iff.1 hp
  obtain ⟨l, hl, hx⟩ := List.exists_of_findSome?_eq_some hv
  exact congrArg (Prod.mk x) ((hlayers l hl).of_find? hs hx)

theorem Context.Stays.visible {c : Context} (hc : c.Stays g) (hs : s.Stays g) :
    Table.Stays g (c.visible s) := by
  have hnames := hc.flatten hs
  simp only [Context.visible]
  split
  · exact hnames
  · intro p hp
    rcases List.mem_append.1 hp with hp | hp
    · exact hnames p hp
    · obtain rfl := List.mem_singleton.1 hp
      rfl

/-- A store of the same machine with more behind what there was, and that unchanged, is a moved
one. -/
theorem Store.Stays.moved_of_kept {width markWidth : Nat} (hs : s.Stays (s.gap width markWidth))
    (hsize : t.cells.size = s.cells.size + width) (hmarks : t.marks = s.marks + markWidth)
    (hmachine : t.machine = s.machine) (hkept : ∀ r < s.cells.size, t.cells[r]? = s.cells[r]?) :
    s.Moved (s.gap width markWidth) t where
  base_le := Nat.le_refl _
  size := hsize
  cell r := by
    -- what was there is its own counterpart, and nothing had a place further on
    by_cases hr : r < s.cells.size
    · have href : (s.gap width markWidth).ref r = r := if_pos hr
      rw [href, hkept r hr, Array.getElem?_eq_getElem hr, Option.map_some,
        hs _ (Array.getElem_mem hr)]
    · have href : (s.gap width markWidth).ref r = r + width := if_neg hr
      have hbehind : t.cells.size ≤ r + width :=
        hsize ▸ Nat.add_le_add_right (Nat.not_lt.1 hr) width
      rw [href, Array.getElem?_eq_none hbehind, Array.getElem?_eq_none (Nat.not_lt.1 hr)]
      rfl
  markBase_le := Nat.le_refl _
  marks := hmarks
  machine := rfl
  machine' := hmachine

/-- A computation that has the same result where all has moved takes nothing away and keeps the
machine. -/
theorem Run.Follows.grows {ε α β : Type} {f : α → β} {c : Run ε α} {d : Run ε β}
    (hs : s.Stays (s.gap 0 0)) (h : Follows (s.gap 0 0) f c d) :
    s.cells.size ≤ (c s).2.cells.size ∧ s.marks ≤ (c s).2.marks ∧
      (c s).2.machine = s.machine := by
  obtain ⟨-, hafter⟩ := h (hs.moved_of_kept rfl rfl rfl fun _ _ => rfl)
  exact ⟨hafter.base_le, hafter.markBase_le, hafter.machine⟩

/-- It has that result again as long as what there was at first is unchanged. -/
theorem Run.Follows.again {ε α : Type} {c : Run ε α}
    (hs : ∀ width markWidth, s.Stays (s.gap width markWidth))
    (h : ∀ width markWidth, Follows (s.gap width markWidth) id c c)
    (hsize : s.cells.size ≤ t.cells.size) (hmarks : s.marks ≤ t.marks)
    (hmachine : t.machine = s.machine)
    (hkept : ∀ r < s.cells.size, t.cells[r]? = s.cells[r]?) : (c t).1 = (c s).1 := by
  obtain ⟨width, hwidth⟩ := Nat.exists_eq_add_of_le hsize
  obtain ⟨markWidth, hmarkWidth⟩ := Nat.exists_eq_add_of_le hmarks
  obtain ⟨hresult, -⟩ := h width markWidth
    ((hs width markWidth).moved_of_kept hwidth hmarkWidth hmachine hkept)
  rw [hresult]
  cases (c s).1 <;> rfl

/-! ## Blocks -/

theorem evalWith_moved {names : Table} (hnames : Table.Stays g names) (e : Expr.Expr) :
    Follows g (Value.moved g) (evalWith names e) (evalWith names e) := by
  have hdict := newDict_named_moved (g := g) (ε := Fault) names
  rw [map_eq_self_iff.2 hnames] at hdict
  exact hdict.bind fun r => (evalFollows g evaluationFuel).eval ⟨[], [], r⟩ e

/-- The names of a frozen context are no longer those of a store. -/
theorem Context.visible_freeze (c : Context) (s t u : Store) :
    (c.freeze s).visible t = (c.freeze s).visible u :=
  rfl

theorem evaluate_freeze_moved {c : Context} (hc : c.Stays g) (hs : s.Stays g) (text : Text) :
    Follows g (Value.moved g) (evaluate text (.context (c.freeze s)))
      (evaluate text (.context (c.freeze s))) := by
  have hfrozen : (c.freeze s).Stays g := by
    refine ⟨fun p hp => absurd hp List.not_mem_nil, fun p hp => absurd hp List.not_mem_nil,
      fun l hl => ?_⟩
    obtain rfl := List.mem_singleton.1 hl
    exact hc.flatten hs
  have hcompile : Follows g id (compileBlock text) (compileBlock text) := by
    refine .get_bind fun t u h => ?_
    rw [h.machine, h.machine']
    exact .same _
  refine hcompile.bind fun e => Follows.ok_bind (.get_bind fun t u _ => ?_)
  rw [c.visible_freeze s t s, c.visible_freeze s u s]
  exact (evalWith_moved (hfrozen.visible hs) e).mapError _

theorem asVector_moved (v : Value) :
    Follows g (List.map (Value.moved g)) (asVector v) (asVector (v.moved g)) := by
  have hvector : Follows g (List.map (Value.moved g))
      (do
        checkLength v
        return ((← get).elements? v).getD [v] : Run Fault (List Value))
      (do
        checkLength (v.moved g)
        return ((← get).elements? (v.moved g)).getD [v.moved g]) := by
    refine (checkLength_moved v).bind fun _ => .get_bind fun s t h => .pure ?_
    rw [h.elements?]
    cases s.elements? v <;> rfl
  cases v with
  | text s | fragment s | bytes s | dict r => exact .pure rfl
  | iterator r => exact (evalFollows g evaluationFuel).elements (.iterator r)
  | generator r => exact (evalFollows g evaluationFuel).elements (.generator r)
  | _ => exact hvector

theorem toText_moved (na : Text) (v : Value) :
    Follows g id (toText na v) (toText na (v.moved g)) := by
  rw [toText, toText, Value.isMissing_moved]
  refine .ite (.pure rfl) (.get_bind fun s t h => ?_)
  rw [h.text]
  exact .same _

theorem vectorTexts_moved (na : Text) (v : Value) :
    Follows g id (vectorTexts na v) (vectorTexts na (v.moved g)) :=
  (asVector_moved v).bind fun items => .mapM_same (toText_moved na) items

theorem segmentTexts_moved {apply : Text → Rendering Value}
    (h : ∀ text, Follows g (Value.moved g) (apply text) (apply text)) (na : Text)
    (segment : Segment) :
    Follows g id (segmentTexts apply na segment) (segmentTexts apply na segment) := by
  cases segment with
  | literal text raw => exact .pure rfl
  | expression text start stop =>
    exact (h text).bind fun v => (vectorTexts_moved na v).mapError Problem.fault

theorem mapM_segmentTexts_moved {apply : Text → Rendering Value}
    (h : ∀ text, Follows g (Value.moved g) (apply text) (apply text)) (na : Text)
    (segments : List Segment) :
    Follows g id (segments.mapM (segmentTexts apply na))
      (segments.mapM (segmentTexts apply na)) := by
  have hall := Follows.mapM_over (segmentTexts_moved h na) segments
  rwa [List.map_id_fun] at hall

end Stencil
