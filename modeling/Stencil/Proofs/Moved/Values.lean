import Stencil.Proofs.Moved.Basic

/-!
# What moved values have in common

Types, numbers, texts, equality and order of values do not depend on where what they refer to is
stored.
-/

namespace Stencil

variable (g : Gap)

/-! ## Kinds of values -/

namespace Value

@[simp] theorem typeOf_moved (v : Value) : (v.moved g).typeOf = v.typeOf := by
  cases v with
  | function f => cases f <;> rfl
  | view m kind r => cases kind <;> rfl
  | _ => rfl

@[simp] theorem typeName_moved (v : Value) : (v.moved g).typeName = v.typeName :=
  congrArg ValueType.name (typeOf_moved g v)

@[simp] theorem typePath_moved (v : Value) : (v.moved g).typePath = v.typePath :=
  congrArg ValueType.path (typeOf_moved g v)

@[simp] theorem isOf_moved (v : Value) (t : ValueType) : (v.moved g).isOf t = v.isOf t := by
  have htype := typeOf_moved g v
  cases v with
  | fragment s => rfl
  | _ => exact congrArg (· == t) htype

@[simp] theorem text?_moved (v : Value) : (v.moved g).text? = v.text? := by
  cases v <;> rfl

@[simp] theorem int?_moved (v : Value) : (v.moved g).int? = v.int? := by
  cases v <;> rfl

@[simp] theorem place?_moved (v : Value) : (v.moved g).place? = v.place?.map g.ref := by
  cases v <;> rfl

@[simp] theorem isMissing_moved (v : Value) : (v.moved g).isMissing = v.isMissing := by
  cases v <;> rfl

@[simp] theorem magnitude?_moved (v : Value) : (v.moved g).magnitude? = v.magnitude? := by
  cases v <;> rfl

@[simp] theorem isSignaling_moved (v : Value) : (v.moved g).isSignaling = v.isSignaling := by
  cases v with
  | decimal d m => cases d <;> rfl
  | _ => rfl

@[simp] theorem toInt_moved (refusal : String) (v : Value) :
    (v.moved g).toInt refusal = v.toInt refusal := by
  cases v <;> rfl

@[simp] theorem toFloat_moved (refusal : String) (v : Value) :
    (v.moved g).toFloat refusal = v.toFloat refusal := by
  cases v <;> rfl

mutual

@[simp] theorem identical_moved (a b : Value) :
    (a.moved g).identical (b.moved g) = a.identical b := by
  cases a <;> cases b
  case tuple.tuple xs ys => exact identicalItems_moved xs ys
  all_goals first
    | rfl
    | simp [moved, identical]

theorem identicalItems_moved (xs ys : List Value) :
    identicalItems (movedItems g xs) (movedItems g ys) = identicalItems xs ys := by
  cases xs with
  | nil => cases ys <;> rfl
  | cons x xs =>
    cases ys with
    | nil => rfl
    | cons y ys =>
      rw [movedItems, movedItems, identicalItems, identicalItems, identical_moved x y,
        identicalItems_moved xs ys]

end

mutual

@[simp] theorem unhashable?_moved (v : Value) : (v.moved g).unhashable? = v.unhashable? := by
  cases v with
  | decimal d m =>
    cases d with
    | nan negative signaling payload => cases signaling <;> rfl
    | _ => rfl
  | view m kind r => cases kind <;> rfl
  | tuple items => exact unhashable?_go_moved items
  | _ => rfl

theorem unhashable?_go_moved (items : List Value) :
    unhashable?.go (movedItems g items) = unhashable?.go items := by
  cases items with
  | nil => rfl
  | cons v items =>
    rw [movedItems, unhashable?.go, unhashable?.go, unhashable?_moved v,
      unhashable?_go_moved items]

end

end Value

/-! ## Dictionaries -/

namespace Dictionary

@[simp] theorem entries_moved (d : Dictionary) :
    (d.moved g).entries = d.entries.map (movedEntry g) := by
  rw [entries, entries, List.map_filterMap, moved, List.filterMap_map]
  exact List.filterMap_congr fun e _ => rfl

@[simp] theorem size_moved (d : Dictionary) : (d.moved g).size = d.size := by
  rw [size, size, entries_moved, List.length_map]

@[simp] theorem capacity_moved (d : Dictionary) : (d.moved g).capacity = d.capacity := by
  rw [capacity, capacity, moved, List.length_map]

@[simp] theorem entryFrom?_moved (d : Dictionary) (place : Nat) :
    (d.moved g).entryFrom? place =
      (d.entryFrom? place).map fun (e, next) => (movedEntry g e, next) := by
  rw [entryFrom?, entryFrom?, moved, List.zipIdx_map, ← List.map_drop]
  induction d.places.zipIdx.drop place with
  | nil => rfl
  | cons p rest ih =>
    obtain ⟨_ | e, i⟩ := p
    · exact ih
    · rfl

theorem pack_moved (d : Dictionary) (wanted : Nat) :
    (d.moved g).pack wanted = (d.pack wanted).moved g := by
  simp only [pack, entries_moved, size_moved]
  simp [moved]

theorem readyFor_moved (d : Dictionary) (key : Value) :
    (d.moved g).readyFor (key.moved g) = (d.readyFor key).moved g := by
  have hpacked : (if (d.moved g).onlyTexts then { (d.moved g).grow with onlyTexts := false }
      else d.moved g) =
      (if d.onlyTexts then { d.grow with onlyTexts := false } else d).moved g := by
    rw [grow, grow, size_moved, pack_moved]
    split <;> split <;> first | rfl | contradiction
  cases key with
  | text t => rfl
  | _ => exact hpacked

theorem add_moved (d : Dictionary) (key value : Value) :
    (d.moved g).add (key.moved g) (value.moved g) = (d.add key value).moved g := by
  have hgrown : (if (d.moved g).room = 0 then (d.moved g).grow else d.moved g) =
      (if d.room = 0 then d.grow else d).moved g := by
    rw [grow, grow, size_moved, pack_moved]
    split <;> split <;> first | rfl | contradiction
  simp only [add, hgrown]
  simp [moved, movedEntry]

theorem foldl_add_moved (entries : List (Value × Value)) (d : Dictionary) :
    (entries.map (movedEntry g)).foldl (fun d (k, v) => (d.readyFor k).add k v) (d.moved g) =
      (entries.foldl (fun d (k, v) => (d.readyFor k).add k v) d).moved g := by
  induction entries generalizing d with
  | nil => rfl
  | cons e entries ih =>
    rw [List.map_cons, List.foldl_cons, List.foldl_cons, ← ih]
    simp only [movedEntry, readyFor_moved, add_moved]

theorem ofEntries_moved (entries : List (Value × Value)) :
    ofEntries (entries.map (movedEntry g)) = (ofEntries entries).moved g :=
  foldl_add_moved g entries empty

theorem setAt_moved (d : Dictionary) (place : Nat) (value : Value) :
    (d.moved g).setAt place (value.moved g) = (d.setAt place value).moved g := by
  simp only [setAt, moved]
  congr 1
  apply List.ext_getElem?
  intro i
  simp only [List.getElem?_map, List.getElem?_modify]
  cases d.places[i]? with
  | none => rfl
  | some e =>
    by_cases hi : place = i
    · cases e <;> simp [hi, movedEntry]
    · simp [hi]

theorem eraseAt_moved (d : Dictionary) (place : Nat) :
    (d.moved g).eraseAt place = (d.eraseAt place).moved g := by
  simp [eraseAt, moved, List.map_set]

@[simp] theorem isTight_moved (d : Dictionary) : (d.moved g).isTight = d.isTight := by
  rw [isTight, isTight, size_moved, capacity_moved, moved, List.length_map]

theorem readyForAll_moved (d other : Dictionary) :
    (d.moved g).readyForAll (other.moved g) = (d.readyForAll other).moved g := by
  simp only [readyForAll, size_moved, isTight_moved, capacity_moved, pack_moved]
  repeat' split
  all_goals rfl

end Dictionary

/-! ## What is stored -/

namespace Store.Moved

variable {g : Gap} {s t : Store}

theorem items (h : s.Moved g t) (r : Ref) :
    t.items (g.ref r) = (s.items r).map (Value.moved g) := by
  unfold Store.items
  rw [h.cell]
  rcases s.cells[r]? with _ | c
  · rfl
  · cases c <;> rfl

theorem dictionary (h : s.Moved g t) (r : Ref) :
    t.dictionary (g.ref r) = (s.dictionary r).moved g := by
  unfold Store.dictionary
  rw [h.cell]
  rcases s.cells[r]? with _ | c
  · rfl
  · cases c <;> rfl

theorem entries (h : s.Moved g t) (r : Ref) :
    t.entries (g.ref r) = (s.entries r).map (movedEntry g) := by
  rw [Store.entries, h.dictionary, Dictionary.entries_moved, Store.entries]

end Store.Moved

/-! ## Equality -/

namespace Store

section

variable {g} {equal equal' : Value → Value → Except Fault Bool}
  (hequal : ∀ a b : Value, equal' (a.moved g) (b.moved g) = equal a b)
include hequal

theorem sameBy_moved (a b : Value) : sameBy equal' (a.moved g) (b.moved g) = sameBy equal a b := by
  rw [sameBy, sameBy, Value.identical_moved, hequal]

theorem findBy_moved (entries : List (Value × Value)) (key : Value) :
    findBy equal' (entries.map (movedEntry g)) (key.moved g) =
      (findBy equal entries key).map (Value.moved g) := by
  rw [findBy, findBy, List.find?_map, Option.map_map, Option.map_map]
  have hfound : ((fun e : Value × Value => (sameBy equal' e.1 (key.moved g)).toOption.getD false) ∘
      movedEntry g) = fun e => (sameBy equal e.1 key).toOption.getD false :=
    funext fun e => by rw [Function.comp, movedEntry, sameBy_moved hequal]
  exact congrArg (fun p => (entries.find? p).map (Value.moved g ∘ (·.2))) hfound

end

@[simp] theorem checkKey_moved (key : Value) : checkKey (key.moved g) = checkKey key := by
  rw [checkKey, checkKey, Value.unhashable?_moved]

@[simp] theorem viewItems_moved (kind : ViewKind) (entries : List (Value × Value)) :
    viewItems kind (entries.map (movedEntry g)) = (viewItems kind entries).map (Value.moved g) := by
  cases kind <;> simp [viewItems, movedEntry, Value.moved]

end Store

end Stencil
