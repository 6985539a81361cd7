import Stencil.Proofs.Moved.Values
import Stencil.Value.Printf

/-!
# Comparing and writing moved values

Moved values compare as before, in a store that has moved with them, and they have the same text.
-/

namespace Stencil

variable {g : Gap}

namespace Store

/-! ## Views -/

section

variable {equal equal' : Value → Value → Except Fault Bool}
  (hequal : ∀ a b : Value, equal' (a.moved g) (b.moved g) = equal a b)
include hequal

theorem viewHas_moved (kind : ViewKind) (entries : List (Value × Value)) (element : Value) :
    viewHas equal' kind (entries.map (movedEntry g)) (element.moved g) =
      viewHas equal kind entries element := by
  have hkeys : (do
      checkKey (element.moved g)
      return (findBy equal' (entries.map (movedEntry g)) (element.moved g)).isSome) =
        (do checkKey element; return (findBy equal entries element).isSome :
          Except Fault Bool) := by
    rw [checkKey_moved, findBy_moved hequal, Option.isSome_map]
  cases kind with
  | keys => exact hkeys
  | values => exact hkeys
  | items =>
    cases element with
    | tuple items =>
      rcases items with _ | ⟨k, _ | ⟨v, _ | ⟨w, items⟩⟩⟩
      case cons.cons.nil =>
        simp only [Value.moved, Value.movedItems, viewHas, checkKey_moved, findBy_moved hequal]
        cases findBy equal entries k with
        | none => rfl
        | some w => exact congrArg _ (funext fun _ => sameBy_moved hequal w v)
      all_goals rfl
    | _ => rfl

theorem viewWithin_moved (k₁ : ViewKind) (e₁ : List (Value × Value)) (k₂ : ViewKind)
    (e₂ : List (Value × Value)) :
    viewWithin equal' k₁ (e₁.map (movedEntry g)) k₂ (e₂.map (movedEntry g)) =
      viewWithin equal k₁ e₁ k₂ e₂ := by
  rw [viewWithin, viewWithin, viewItems_moved]
  exact allM_map (viewHas_moved hequal k₂ e₂) _

end

/-! ## Equality -/

theorem moved_eq_complex {v : Value} {z : Number.Complex} :
    v.moved g = .complex z ↔ v = .complex z := by
  cases v <;> simp [Value.moved]

theorem complex_or (v : Value) : (∃ z, v = .complex z) ∨ ∀ z, v ≠ .complex z := by
  cases v <;> simp

@[simp] theorem numbersEqual?_moved (a b : Value) :
    numbersEqual? (a.moved g) (b.moved g) = numbersEqual? a b := by
  have hmoved {v : Value} (h : ∀ z, v ≠ .complex z) (z : Number.Complex) :
      v.moved g = .complex z → False := fun hz => h z (moved_eq_complex.1 hz)
  have hcomplex (z : Number.Complex) : (Value.complex z).moved g = .complex z := rfl
  obtain ⟨z, rfl⟩ | ha := complex_or a <;> obtain ⟨w, rfl⟩ | hb := complex_or b
  · rfl
  · rw [numbersEqual?.eq_2 _ _ hb, hcomplex, numbersEqual?.eq_2 _ _ (hmoved hb),
      Value.magnitude?_moved, Value.isSignaling_moved]
  · rw [numbersEqual?.eq_3 _ _ ha, hcomplex, numbersEqual?.eq_3 _ _ (hmoved ha),
      Value.magnitude?_moved, Value.isSignaling_moved]
  · rw [numbersEqual?.eq_4 a b ha hb fun z w hz _ => ha z hz,
      numbersEqual?.eq_4 _ _ (hmoved ha) (hmoved hb) fun z w hz _ => hmoved ha z hz,
      Value.magnitude?_moved, Value.magnitude?_moved, Value.isSignaling_moved,
      Value.isSignaling_moved]

/-- Sequences of moved values are compared element by element. -/
theorem allM_zip_moved {equal equal' : Value → Value → Except Fault Bool}
    (hequal : ∀ a b : Value, equal' (a.moved g) (b.moved g) = equal a b) (xs ys : List Value) :
    ((xs.map (Value.moved g)).zip (ys.map (Value.moved g))).allM
        (fun (x, y) => sameBy equal' x y) =
      (xs.zip ys).allM fun (x, y) => sameBy equal x y := by
  rw [List.zip_map]
  exact allM_map (fun p => sameBy_moved hequal p.1 p.2) _

theorem equalTo_moved {s t : Store} (h : s.Moved g t) (n : Nat) (a b : Value) :
    t.equalTo n (a.moved g) (b.moved g) = s.equalTo n a b := by
  induction n generalizing a b with
  | zero => rfl
  | succ n ih =>
    have hitems (xs ys : List Value) :
        (if (xs.map (Value.moved g)).length = (ys.map (Value.moved g)).length then
          ((xs.map (Value.moved g)).zip (ys.map (Value.moved g))).allM
            (fun (x, y) => sameBy (t.equalTo n) x y)
          else .ok false) =
        if xs.length = ys.length then (xs.zip ys).allM fun (x, y) => sameBy (s.equalTo n) x y
          else .ok false := by
      rw [List.length_map, List.length_map, allM_zip_moved ih]
    have hparts := congrArg (Except.ok (ε := Fault)) (Value.identical_moved g a b)
    rw [equalTo.eq_def, equalTo.eq_def]
    simp only [numbersEqual?_moved, Value.text?_moved]
    -- two numbers are compared as such; what is left are other values, of the same kind or not
    rcases numbersEqual? a b with _ | r
    swap
    · rfl
    cases a with
    | tuple xs =>
      cases b with
      | tuple ys =>
        simp only [Value.text?, Value.moved, Value.movedItems_eq]
        exact hitems xs ys
      | _ => exact hparts
    | list r =>
      cases b with
      | list q =>
        simp only [Value.text?, Value.moved, Gap.ref_inj, h.items]
        split
        · rfl
        · exact hitems (s.items r) (s.items q)
      | _ => exact hparts
    | dict r =>
      cases b with
      | dict q =>
        simp only [Value.text?, Value.moved, Gap.ref_inj, h.entries, List.length_map]
        split
        · rfl
        · split
          · rfl
          · refine allM_map (fun e => ?_) _
            simp only [movedEntry, findBy_moved ih]
            cases findBy (s.equalTo n) (s.entries q) e.1 with
            | none => rfl
            | some w => exact sameBy_moved ih e.2 w
      | _ => exact hparts
    | view m k r =>
      cases b with
      | view m' k' q =>
        simp only [Value.text?, Value.moved, Gap.mark_beq, h.entries, List.length_map,
          viewWithin_moved ih]
      | _ => exact hparts
    | range start stop step =>
      cases b with
      | range start' stop' step' => rfl
      | _ => exact hparts
    | text x =>
      cases b with
      | text y => rfl
      | fragment y => rfl
      | _ => exact hparts
    | fragment x =>
      cases b with
      | text y => rfl
      | fragment y => rfl
      | _ => exact hparts
    | _ => exact hparts

namespace Moved

variable {s t : Store} (h : s.Moved g t)
include h

theorem equal (a b : Value) : t.equal (a.moved g) (b.moved g) = s.equal a b :=
  equalTo_moved h maxValueDepth a b

theorem same (a b : Value) : t.same (a.moved g) (b.moved g) = s.same a b :=
  sameBy_moved h.equal a b

theorem lookup (entries : List (Value × Value)) (key : Value) :
    t.lookup (entries.map (movedEntry g)) (key.moved g) =
      (s.lookup entries key).map (Option.map (Value.moved g)) := by
  rw [Store.lookup, Store.lookup, checkKey_moved, findBy_moved h.equal]
  cases checkKey key <;> rfl

theorem lookup_text (entries : List (Value × Value)) (key : Text) :
    t.lookup (entries.map (movedEntry g)) (.text key) =
      (s.lookup entries (.text key)).map (Option.map (Value.moved g)) :=
  h.lookup entries (.text key)

theorem entryAt? (d : Dictionary) (key : Value) :
    t.entryAt? (d.moved g) (key.moved g) =
      (s.entryAt? d key).map (Option.map (Prod.map id (Value.moved g))) := by
  have hplace (p q : Option (Value × Value) → Bool)
      (hpq : ∀ e, q (Option.map (movedEntry g) e) = p e) :
      (d.moved g).places.findIdx? q = d.places.findIdx? p := by
    rw [Dictionary.moved, List.findIdx?_map]
    exact congrArg (d.places.findIdx? ·) (funext hpq)
  rw [Store.entryAt?, Store.entryAt?, Dictionary.entries_moved, h.lookup]
  rcases s.lookup d.entries key with fault | _ | v
  · rfl
  · rfl
  · refine congrArg Except.ok ?_
    rw [Option.map_map]
    refine congrArg (Option.map (·, v.moved g)) (hplace _ _ fun e => ?_)
    rcases e with _ | e
    · rfl
    · simp only [Option.map_some, movedEntry, h.same]

theorem insert (d : Dictionary) (key value : Value) :
    t.insert (d.moved g) (key.moved g) (value.moved g) =
      (s.insert d key value).map (Dictionary.moved g) := by
  rw [Store.insert, Store.insert]
  simp only [Dictionary.readyFor_moved, h.entryAt?]
  rcases s.entryAt? (d.readyFor key) key with fault | _ | ⟨place, v⟩
  · rfl
  · exact congrArg Except.ok (Dictionary.add_moved g _ key value)
  · exact congrArg Except.ok (Dictionary.setAt_moved g _ place value)

/-! ## Order -/

theorem order?_items (symbol : String) (n : Nat)
    (horder : ∀ a b : Value, t.order? symbol n (a.moved g) (b.moved g) = s.order? symbol n a b)
    (xs ys : List Value) :
    order?.items t symbol n (xs.map (Value.moved g)) (ys.map (Value.moved g)) =
      order?.items s symbol n xs ys := by
  induction xs generalizing ys with
  | nil => cases ys <;> simp only [List.map_nil, List.map_cons, order?.items]
  | cons x xs ih =>
    cases ys with
    | nil => simp only [List.map_nil, List.map_cons, order?.items]
    | cons y ys =>
      rw [List.map_cons, List.map_cons, order?.items, order?.items, h.same, ih, horder]

theorem order? (symbol : String) (n : Nat) (a b : Value) :
    t.order? symbol n (a.moved g) (b.moved g) = s.order? symbol n a b := by
  induction n generalizing a b with
  | zero => rw [Store.order?.eq_def, Store.order?.eq_def]
  | succ n ih =>
    have hitems := order?_items h symbol n ih
    rw [Store.order?.eq_def, Store.order?.eq_def]
    simp only [Value.magnitude?_moved, Value.text?_moved, Value.typePath_moved]
    cases a with
    | tuple xs =>
      cases b with
      | tuple ys =>
        simp only [Value.magnitude?, Value.text?, Value.moved, Value.movedItems_eq]
        exact hitems xs ys
      | _ => rfl
    | list r =>
      cases b with
      | list q =>
        simp only [Value.magnitude?, Value.text?, Value.moved, h.items]
        exact hitems (s.items r) (s.items q)
      | _ => rfl
    | bool _ | int _ | float _ _ =>
      cases b with
      | decimal _ _ =>
        simp only [Value.magnitude?, Value.moved]
        generalize Magnitude.order _ _ = o
        cases o <;> rfl
      | _ => rfl
    | decimal _ _ =>
      cases b with
      | bool _ | int _ | float _ _ | decimal _ _ =>
        simp only [Value.magnitude?, Value.moved]
        generalize Magnitude.order _ _ = o
        cases o <;> rfl
      | _ => rfl
    | bytes _ | date _ | datetime _ _ | time _ | duration _ => cases b <;> rfl
    | _ =>
      rcases b.magnitude? with _ | y
      · rcases b.text? with _ | x <;> rfl
      · rfl

theorem before (a b : Value) : t.before (a.moved g) (b.moved g) = s.before a b := by
  rw [Store.before, Store.before, h.order?]

theorem after (a b : Value) : t.after (a.moved g) (b.moved g) = s.after a b := by
  rw [Store.after, Store.after, h.order?]

end Moved

/-! ## Texts -/

@[simp] theorem plainForm_moved (manner : Manner) (v : Value) :
    plainForm manner (v.moved g) = plainForm manner v := by
  have htype := Value.typeName_moved g v
  cases v with
  | function f => cases f <;> rfl
  | _ => first | rfl | exact congrArg (fun name => Except.ok ("<" ++ name ++ ">").toList) htype

/-- Going over moved values is going over the values themselves. -/
theorem mapM_moved {α : Type} {p q : Value → Except Fault α} (h : ∀ v, q (v.moved g) = p v)
    (items : List Value) : (items.map (Value.moved g)).mapM q = items.mapM p := by
  rw [List.mapM_map]
  exact congrArg (items.mapM ·) (funext h)

theorem form_moved {s t : Store} (h : s.Moved g t) (n : Nat) (within : List Ref) (manner : Manner)
    (v : Value) : t.form n (within.map g.ref) manner (v.moved g) = s.form n within manner v := by
  induction n generalizing within manner v with
  | zero => rfl
  | succ n ih =>
    -- a list that is being written already is cut short there, wherever it is stored
    have hwithin (r : Nat) : (within.map g.ref).contains (g.ref r) = within.contains r := by
      rw [Bool.eq_iff_iff, List.contains_iff_mem, List.contains_iff_mem, List.mem_map]
      simp
    have hplain := plainForm_moved (g := g) manner v
    have htype := Value.typeName_moved g v
    cases v with
    | tuple items =>
      rw [Value.moved, Value.movedItems_eq, form, form, mapM_moved (ih within .quoted)]
    | slice start stop step =>
      have hparts := mapM_moved (ih within .quoted) [start, stop, step]
      rw [Value.moved, form, form, ← hparts]
      rfl
    | list r =>
      have hitems := mapM_moved (ih (r :: within) .quoted) (s.items r)
      rw [Value.moved, form, form, hwithin, h.items, ← hitems]
      rfl
    | dict r =>
      have hentries : ((s.entries r).map (movedEntry g)).mapM (fun e => do
            return (← t.form n ((r :: within).map g.ref) .quoted e.1) ++ ':' :: ' ' ::
              (← t.form n ((r :: within).map g.ref) .quoted e.2)) =
          (s.entries r).mapM fun e => do
            return (← s.form n (r :: within) .quoted e.1) ++ ':' :: ' ' ::
              (← s.form n (r :: within) .quoted e.2) := by
        rw [List.mapM_map]
        refine congrArg ((s.entries r).mapM ·) (funext fun e => ?_)
        simp only [Function.comp, movedEntry, ih]
      rw [Value.moved, form, form, hwithin, h.entries]
      split
      · rfl
      · exact congrArg (· >>= _) hentries
    | view m kind r =>
      have hitems := mapM_moved (ih within .quoted) (viewItems kind (s.entries r))
      rw [form, Value.moved, form, h.entries, viewItems_moved, hitems, ← htype]
      rfl
    | _ => exact hplain

namespace Moved

variable {s t : Store} (h : s.Moved g t)
include h

theorem text (v : Value) : t.text (v.moved g) = s.text v :=
  form_moved h maxValueDepth [] .shown v

theorem quoted (v : Value) : t.quoted (v.moved g) = s.quoted v :=
  form_moved h maxValueDepth [] .quoted v

end Moved
end Store
end Stencil
