import Stencil.Proofs.Basic
import Stencil.Evaluation.Operation

/-!
# Moved values

What a computation does depends on what its values refer to, and not on where that is stored. To say
so, two stores are compared of which the second has other things between those that the first had at
some time and those that came later (`Store.Moved`). A computation follows another if it does, on
moved values in such a store, what the other does (`Run.Follows`): it fails with the same fault, or
has the moved result, and leaves the stores alike.
-/

namespace Stencil

/-! ## Places and marks -/

/-- A gap in a store of a machine: places from `base` on come `width` later, and marks above
`markBase` are `markWidth` greater. -/
structure Gap where
  base : Nat
  width : Nat
  markBase : Nat
  markWidth : Nat
  machine : Expr.Machine

namespace Gap

variable (g : Gap)

/-- The place that takes the part of another. -/
def ref (r : Nat) : Nat := if r < g.base then r else r + g.width

/-- The mark that takes the part of another. -/
def mark (m : Nat) : Nat := if m ≤ g.markBase then m else m + g.markWidth

@[simp] theorem ref_inj {r r' : Nat} : g.ref r = g.ref r' ↔ r = r' := by
  unfold ref
  split <;> split <;> omega

@[simp] theorem mark_inj {m m' : Nat} : g.mark m = g.mark m' ↔ m = m' := by
  unfold mark
  split <;> split <;> omega

@[simp] theorem mark_beq (m m' : Nat) : (g.mark m == g.mark m') = (m == m') := by
  rw [Bool.eq_iff_iff, beq_iff_eq, beq_iff_eq, mark_inj]

@[simp] theorem mark_zero : g.mark 0 = 0 := if_pos (Nat.zero_le _)

theorem ref_of_base_le {r : Nat} (h : g.base ≤ r) : g.ref r = r + g.width :=
  if_neg (Nat.not_lt.2 h)

theorem mark_of_lt {m : Nat} (h : g.markBase < m) : g.mark m = m + g.markWidth :=
  if_neg (Nat.not_le.2 h)

end Gap

/-! ## Values and what is stored -/

section

variable (g : Gap)

/-- A variable with the place that takes the part of its own. -/
def movedNames (names : List (Text × Ref)) : List (Text × Ref) :=
  names.map fun (x, r) => (x, g.ref r)

/-- A scope whose names stand in other places. -/
def Scope.moved (scope : Scope) : Scope :=
  ⟨movedNames g scope.own, movedNames g scope.outer, g.ref scope.names⟩

/-- A function that counts in another place. -/
def Function.moved : Function → Function
  | .counter r => .counter (g.ref r)
  | f => f

@[simp] theorem Function.moved_inj {f f' : Function} : f.moved g = f'.moved g ↔ f = f' := by
  cases f <;> cases f' <;> simp [moved]

namespace Value

mutual

/-- A value that refers to other places. -/
def moved : Value → Value
  | .float x m => .float x (g.mark m)
  | .decimal d m => .decimal d (g.mark m)
  | .tuple items => .tuple (movedItems items)
  | .slice start stop step => .slice start.moved stop.moved step.moved
  | .list r => .list (g.ref r)
  | .dict r => .dict (g.ref r)
  | .view m kind r => .view (g.mark m) kind (g.ref r)
  | .iterator r => .iterator (g.ref r)
  | .generator r => .generator (g.ref r)
  | .object m typeName label sized => .object (g.mark m) typeName label sized
  | .frame r => .frame (g.ref r)
  | .function f => .function (f.moved g)
  | .method self m => .method self.moved m
  | .closure parameters body scope => .closure (movedDefaults parameters) body (scope.moved g)
  | v => v

/-- Values that refer to other places. -/
def movedItems : List Value → List Value
  | [] => []
  | v :: items => v.moved :: movedItems items

/-- Parameters whose defaults refer to other places. -/
def movedDefaults : List (Expr.ParameterKind × Text × Option Value) →
    List (Expr.ParameterKind × Text × Option Value)
  | [] => []
  | (kind, x, some v) :: parameters => (kind, x, some v.moved) :: movedDefaults parameters
  | (kind, x, Option.none) :: parameters => (kind, x, Option.none) :: movedDefaults parameters

end

@[simp] theorem movedItems_eq (items : List Value) : movedItems g items = items.map (moved g) := by
  induction items with
  | nil => rfl
  | cons v items ih => rw [movedItems, ih, List.map_cons]

@[simp] theorem movedDefaults_eq (parameters : List (Expr.ParameterKind × Text × Option Value)) :
    movedDefaults g parameters =
      parameters.map fun (kind, x, default) => (kind, x, default.map (moved g)) := by
  induction parameters with
  | nil => rfl
  | cons p parameters ih =>
    obtain ⟨kind, x, _ | v⟩ := p
    · rw [movedDefaults, ih]
      rfl
    · rw [movedDefaults, ih]
      rfl

end Value

/-- An entry of a dictionary that refers to other places. -/
def movedEntry (e : Value × Value) : Value × Value := (e.1.moved g, e.2.moved g)

/-- A dictionary that refers to other places. -/
def Dictionary.moved (d : Dictionary) : Dictionary :=
  { d with places := d.places.map (Option.map (movedEntry g)) }

/-- What a generator goes through, with other places for its names. -/
def GeneratorBody.moved (body : GeneratorBody) : GeneratorBody :=
  { body with scope := body.scope.moved g }

/-- What an iterator still has to give, in other places. -/
def Source.moved : Source → Source
  | .values rest => .values (rest.map (Value.moved g))
  | .items list next => .items (g.ref list) next
  | .entries dict kind next size given => .entries (g.ref dict) kind next size given
  | .columns frame next => .columns (g.ref frame) next
  | .range next stop step => .range next stop step
  | .generator body active => .generator (body.moved g) (active.map g.ref)
  | .busy => .busy

/-- Something stored that refers to other places. -/
def Cell.moved : Cell → Cell
  | .list items => .list (items.map (Value.moved g))
  | .dict content => .dict (content.moved g)
  | .iterator source => .iterator (source.moved g)
  | .counter calls => .counter calls
  | .variable value => .variable (value.map (Value.moved g))

/-- A value with the name that it is given. -/
def movedNamed (p : Text × Value) : Text × Value := (p.1, p.2.moved g)

/-- Arguments that refer to other places. -/
def Arguments.moved (a : Arguments) : Arguments :=
  ⟨a.positional.map (Value.moved g), a.named.map (movedNamed g)⟩

/-! ## Stores -/

/-- The second store has all that the first has, in the places that take the part of its own, on the
same machine. -/
structure Store.Moved (s t : Store) : Prop where
  base_le : g.base ≤ s.cells.size
  size : t.cells.size = s.cells.size + g.width
  cell : ∀ r : Ref, t.cells[g.ref r]? = s.cells[r]?.map (Cell.moved g)
  markBase_le : g.markBase ≤ s.marks
  marks : t.marks = s.marks + g.markWidth
  machine : s.machine = g.machine
  machine' : t.machine = g.machine

end

namespace Store.Moved

variable {g : Gap} {s t : Store}

theorem ref_size (h : s.Moved g t) : g.ref s.cells.size = t.cells.size := by
  rw [g.ref_of_base_le h.base_le, h.size]

theorem ref_lt_iff (h : s.Moved g t) (r : Nat) : g.ref r < t.cells.size ↔ r < s.cells.size := by
  have := h.base_le
  rw [h.size]
  unfold Gap.ref
  split <;> omega

theorem push (h : s.Moved g t) (c : Cell) : (s.push c).Moved g (t.push (c.moved g)) where
  base_le := by
    have := h.base_le
    simp only [Store.push, Array.size_push]
    omega
  size := by
    simp only [Store.push, Array.size_push, h.size]
    omega
  cell r := by
    -- the new places take the part of each other, as `ref_size` says
    simp only [Store.push, Array.getElem?_push, ← h.ref_size, Gap.ref_inj, h.cell]
    split <;> rfl
  markBase_le := h.markBase_le
  marks := h.marks
  machine := h.machine
  machine' := h.machine'

theorem set (h : s.Moved g t) (r : Ref) (c : Cell) :
    (s.set r c).Moved g (t.set (g.ref r) (c.moved g)) where
  base_le := by
    simp only [Store.set, Array.size_setIfInBounds]
    exact h.base_le
  size := by
    simp only [Store.set, Array.size_setIfInBounds]
    exact h.size
  cell q := by
    simp only [Store.set, Array.getElem?_setIfInBounds, Gap.ref_inj, h.ref_lt_iff, h.cell]
    split
    · split <;> rfl
    · rfl
  markBase_le := h.markBase_le
  marks := h.marks
  machine := h.machine
  machine' := h.machine'

theorem mark_next (h : s.Moved g t) : g.mark (s.marks + 1) = t.marks + 1 := by
  rw [g.mark_of_lt (Nat.lt_succ_of_le h.markBase_le), h.marks]
  omega

theorem nextMark (h : s.Moved g t) :
    ({ s with marks := s.marks + 1 } : Store).Moved g { t with marks := t.marks + 1 } where
  base_le := h.base_le
  size := h.size
  cell := h.cell
  markBase_le := Nat.le_succ_of_le h.markBase_le
  marks := by
    have := h.marks
    simp only
    omega
  machine := h.machine
  machine' := h.machine'

end Store.Moved

/-! ## Computations -/

namespace Run

variable {ε α β γ δ : Type}

/-- One computation does what another does, in a store where all has moved: it fails with the same
fault, or with its result as `f` says, and the stores are moved again. -/
def Follows (g : Gap) (f : α → β) (c : Run ε α) (d : Run ε β) : Prop :=
  ∀ ⦃s t : Store⦄, s.Moved g t → (d t).1 = (c s).1.map f ∧ (c s).2.Moved g (d t).2

namespace Follows

variable {g : Gap} {f : α → β} {f' : γ → δ}

theorem pure {a : α} {b : β} (h : b = f a) :
    Follows g f (Pure.pure a : Run ε α) (Pure.pure b : Run ε β) := by
  intro s t hst
  exact ⟨congrArg Except.ok h, hst⟩

theorem throw (e : ε) : Follows g f (MonadExcept.throw e : Run ε α) (MonadExcept.throw e) := by
  intro s t hst
  exact ⟨rfl, hst⟩

theorem throw_of_eq {e e' : ε} (h : e' = e) :
    Follows g f (MonadExcept.throw e : Run ε α) (MonadExcept.throw e') := by
  rw [h]
  exact throw e

/-- Nothing comes after a fault. -/
theorem throw_bind (e : ε) (k : γ → Run ε α) (l : δ → Run ε β) :
    Follows g f (MonadExcept.throw e >>= k) (MonadExcept.throw e >>= l) := by
  intro s t hst
  exact ⟨rfl, hst⟩

theorem ofExcept {r : Except ε α} {r' : Except ε β} (h : r' = r.map f) :
    Follows g f (Run.ofExcept r) (Run.ofExcept r') := by
  intro s t hst
  exact ⟨h, hst⟩

theorem same (r : Except ε α) : Follows g id (Run.ofExcept r) (Run.ofExcept r) :=
  ofExcept (by cases r <;> rfl)

theorem bind {c : Run ε α} {d : Run ε β} {k : α → Run ε γ} {l : β → Run ε δ}
    (h : Follows g f c d) (hk : ∀ a, Follows g f' (k a) (l (f a))) :
    Follows g f' (c >>= k) (d >>= l) := by
  intro s t hst
  obtain ⟨hresult, hafter⟩ := h hst
  rw [bind_apply, bind_apply]
  -- both first parts fail, or both succeed and the rest goes on from the stores they leave
  rcases hc : c s with ⟨_ | a, s'⟩ <;> rcases hd : d t with ⟨_ | b, t'⟩ <;>
    rw [hc, hd] at hresult hafter
  · obtain rfl := Except.error.inj hresult
    exact ⟨rfl, hafter⟩
  · exact absurd hresult (by simp [Except.map])
  · exact absurd hresult (by simp [Except.map])
  · obtain rfl := Except.ok.inj hresult
    exact hk a hafter

theorem ite {p : Prop} [Decidable p] {c c' : Run ε α} {d d' : Run ε β} (h : Follows g f c d)
    (h' : Follows g f c' d') : Follows g f (if p then c else c') (if p then d else d') := by
  split
  · exact h
  · exact h'

theorem ok_bind {a : γ} {b : δ} {k : γ → Run ε α} {l : δ → Run ε β}
    (h : Follows g f (k a) (l b)) :
    Follows g f (Run.ofExcept (.ok a) >>= k) (Run.ofExcept (.ok b) >>= l) := by
  intro s t hst
  exact h hst

/-- A computation that looks at the store follows one that does if it does so in each pair of
stores. -/
theorem get_bind {k : Store → Run ε α} {l : Store → Run ε β}
    (h : ∀ s t : Store, s.Moved g t → Follows g f (k s) (l t)) :
    Follows g f (MonadState.get >>= k) (MonadState.get >>= l) := by
  intro s t hst
  exact h s t hst hst

theorem tryCatch {c : Run ε α} {d : Run ε β} {k : ε → Run ε α} {l : ε → Run ε β}
    (h : Follows g f c d) (hk : ∀ e, Follows g f (k e) (l e)) :
    Follows g f (MonadExcept.tryCatch c k) (MonadExcept.tryCatch d l) := by
  intro s t hst
  obtain ⟨hresult, hafter⟩ := h hst
  rw [tryCatch_apply, tryCatch_apply]
  rcases hc : c s with ⟨_ | a, s'⟩ <;> rcases hd : d t with ⟨_ | b, t'⟩ <;>
    rw [hc, hd] at hresult hafter
  · obtain rfl := Except.error.inj hresult
    exact hk _ hafter
  · exact absurd hresult (by simp [Except.map])
  · exact absurd hresult (by simp [Except.map])
  · exact ⟨hresult, hafter⟩

theorem mapError {ε' : Type} {c : Run ε α} {d : Run ε β} (h : Follows g f c d) (k : ε → ε') :
    Follows g f (c.mapError k) (d.mapError k) := by
  intro s t hst
  obtain ⟨hresult, hafter⟩ := h hst
  refine ⟨?_, hafter⟩
  rw [mapError_apply, mapError_apply, hresult]
  cases (c s).1 <;> rfl

theorem alloc (c : Cell) : Follows g g.ref (Run.alloc c : Run ε Ref) (Run.alloc (c.moved g)) := by
  intro s t hst
  exact ⟨congrArg Except.ok hst.ref_size.symm, hst.push c⟩

theorem replace (r : Ref) (c : Cell) :
    Follows g id (Run.replace r c : Run ε Unit) (Run.replace (g.ref r) (c.moved g)) := by
  intro s t hst
  exact ⟨rfl, hst.set r c⟩

theorem mark : Follows g g.mark (Run.mark : Run ε Nat) Run.mark := by
  intro s t hst
  exact ⟨congrArg Except.ok hst.mark_next.symm, hst.nextMark⟩

theorem newList (items : List Value) :
    Follows g (Value.moved g) (Run.newList items : Run ε Value)
      (Run.newList (items.map (Value.moved g))) :=
  (alloc (.list items)).bind fun _ => pure rfl

theorem newIterator (source : Source) :
    Follows g g.ref (Run.newIterator source : Run ε Ref) (Run.newIterator (source.moved g)) :=
  alloc (.iterator source)

theorem mapM {k : α → Run ε γ} {l : β → Run ε δ} (h : ∀ a, Follows g f' (k a) (l (f a)))
    (items : List α) : Follows g (List.map f') (items.mapM k) ((items.map f).mapM l) := by
  induction items with
  | nil => exact pure rfl
  | cons a items ih =>
    rw [List.map_cons, List.mapM_cons, List.mapM_cons]
    exact (h a).bind fun _ => ih.bind fun _ => pure rfl

theorem mapM_same {k : α → Run ε γ} {l : β → Run ε γ} (h : ∀ a, Follows g id (k a) (l (f a)))
    (items : List α) : Follows g id (items.mapM k) ((items.map f).mapM l) := by
  have hmap := mapM h items
  rwa [List.map_id_fun] at hmap

/-- Two computations over the same items. -/
theorem mapM_over {k : α → Run ε γ} {l : α → Run ε δ} (h : ∀ a, Follows g f' (k a) (l a))
    (items : List α) : Follows g (List.map f') (items.mapM k) (items.mapM l) := by
  have hmap := mapM (f := id) h items
  rwa [List.map_id] at hmap

theorem foldlM_over {k : α → γ → Run ε α} {l : β → γ → Run ε β}
    (h : ∀ a c, Follows g f (k a c) (l (f a) c)) (items : List γ) (a : α) :
    Follows g f (items.foldlM k a) (items.foldlM l (f a)) := by
  induction items generalizing a with
  | nil => exact pure rfl
  | cons c items ih =>
    rw [List.foldlM_cons, List.foldlM_cons]
    exact (h a c).bind fun b => ih b

theorem forM {k : α → Run ε Unit} {l : β → Run ε Unit} (h : ∀ a, Follows g id (k a) (l (f a)))
    (items : List α) : Follows g id (items.forM k) ((items.map f).forM l) := by
  induction items with
  | nil => exact pure rfl
  | cons a items ih =>
    rw [List.map_cons, List.forM, List.forM]
    exact (h a).bind fun _ => ih

theorem anyM {k : α → Run ε Bool} {l : β → Run ε Bool} (h : ∀ a, Follows g id (k a) (l (f a)))
    (items : List α) : Follows g id (items.anyM k) ((items.map f).anyM l) := by
  induction items with
  | nil => exact pure rfl
  | cons a items ih =>
    rw [List.map_cons, List.anyM, List.anyM]
    refine (h a).bind fun b => ?_
    cases b with
    | true => exact pure rfl
    | false => exact ih

end Follows
end Run
end Stencil
