import Mathlib.Data.List.InsertIdx
import Stencil.Proofs.Moved.Arithmetic

/-!
# Elements of moved values

Moved values have moved elements: what a subscript picks out of them, what an iterator over them is
made from, and the order that sorting puts them in.
-/

namespace Stencil

open Run (Follows)

variable {g : Gap}

/-! ## Subscripts -/

theorem sliceBound_moved (v : Value) (default : Int) :
    sliceBound (v.moved g) default = sliceBound v default := by
  cases v <;> rfl

theorem sliceRange_moved (length : Nat) (start stop step : Value) :
    sliceRange length (start.moved g) (stop.moved g) (step.moved g) =
      sliceRange length start stop step := by
  have hstep : sliceRange length start stop (step.moved g) = sliceRange length start stop step := by
    rw [sliceRange, sliceRange, sliceBound_moved]
  have hstop (step : Value) :
      sliceRange length start (stop.moved g) step = sliceRange length start stop step := by
    cases stop <;> rfl
  have hstart (stop step : Value) :
      sliceRange length (start.moved g) stop step = sliceRange length start stop step := by
    cases start <;> rfl
  rw [hstart, hstop, hstep]

theorem sliceItems_map {α β : Type} (f : α → β) (items : List α) (r : SliceRange) :
    sliceItems (items.map f) r = (sliceItems items r).map f := by
  simp only [sliceItems, List.map_filterMap]
  refine List.filterMap_congr fun i _ => ?_
  simp

theorem pickIndex_moved {α β : Type} {f : α → β} (items : List α) (i : Int)
    {ofItem : α → Value} {ofItem' : β → Value}
    (hitem : ∀ a, ofItem' (f a) = (ofItem a).moved g) (outside path : String) :
    Follows g (Value.moved g)
      (match (position? items.length i).bind fun k => items[k]? with
        | some x => return ofItem x
        | none =>
          if fitsPosition i then throw (.index outside)
          else throw (.index ("cannot fit '" ++ path ++ "' into an index-sized integer")))
      (match (position? (items.map f).length i).bind fun k => (items.map f)[k]? with
        | some x => return ofItem' x
        | none =>
          if fitsPosition i then throw (.index outside)
          else throw (.index ("cannot fit '" ++ path ++ "' into an index-sized integer")) :
        Run Fault Value) := by
  rw [List.length_map]
  rcases position? items.length i with _ | k
  · exact .ite (.throw _) (.throw _)
  · simp only [Option.bind_some, List.getElem?_map]
    rcases items[k]? with _ | x
    · exact .ite (.throw _) (.throw _)
    · exact .pure (hitem x)

theorem pickItems_moved {α β : Type} {f : α → β} (items : List α) (index : Value)
    {ofItem : α → Value} {ofItem' : β → Value} {ofItems : List α → Run Fault Value}
    {ofItems' : List β → Run Fault Value} (hitem : ∀ a, ofItem' (f a) = (ofItem a).moved g)
    (hitems : ∀ l, Follows g (Value.moved g) (ofItems l) (ofItems' (l.map f))) (outside : String)
    (refused : String → String) :
    Follows g (Value.moved g) (pickItems items index ofItem ofItems outside refused)
      (pickItems (items.map f) (index.moved g) ofItem' ofItems' outside refused) := by
  have hother (h : ∀ start stop step, index ≠ .slice start stop step) :
      Follows g (Value.moved g) (pickItems items index ofItem ofItems outside refused)
        (pickItems (items.map f) (index.moved g) ofItem' ofItems' outside refused) := by
    have hmoved : ∀ start stop step, index.moved g = .slice start stop step → False := by
      cases index <;> simp_all [Value.moved]
    rw [pickItems.eq_2 _ _ _ _ _ _ h, pickItems.eq_2 _ _ _ _ _ _ hmoved, Value.int?_moved,
      Value.typePath_moved]
    rcases index.int? with _ | i
    · exact .throw _
    · exact pickIndex_moved items i hitem outside _
  cases index with
  | slice start stop step =>
    simp only [pickItems, Value.moved, List.length_map, sliceRange_moved]
    refine (Follows.same _).bind fun r => ?_
    rw [id_eq, sliceItems_map]
    exact hitems _
  | _ => exact hother (by simp)

/-- What an index picks out of elements that are no values. -/
theorem pickItems_same {α : Type} (items : List α) (index : Value) {ofItem : α → Value}
    {ofItems : List α → Run Fault Value} (hitem : ∀ a, ofItem a = (ofItem a).moved g)
    (hitems : ∀ l, Follows g (Value.moved g) (ofItems l) (ofItems l)) (outside : String)
    (refused : String → String) :
    Follows g (Value.moved g) (pickItems items index ofItem ofItems outside refused)
      (pickItems items (index.moved g) ofItem ofItems outside refused) := by
  have h := pickItems_moved (f := id) items index hitem
    (fun l => by rw [List.map_id]; exact hitems l) outside refused
  rwa [List.map_id] at h

theorem pickEntry_moved (entries : List (Value × Value)) (key : Value) :
    Follows g (Value.moved g) (pickEntry entries key)
      (pickEntry (entries.map (movedEntry g)) (key.moved g)) := by
  refine Follows.get_bind fun s t h => ?_
  rw [h.lookup]
  refine (Follows.ofExcept rfl).bind fun found => ?_
  rcases found with _ | v
  · refine Follows.get_bind fun s t h => ?_
    rw [h.quoted]
    exact (Follows.same _).bind fun _ => .throw _
  · exact .pure rfl

theorem rangeIndex_moved (start stop step i : Int) : Follows g (Value.moved g)
    (match position? (Value.rangeLength start stop step) i with
      | some k => return .int (start + k * step)
      | none => throw (.index "range object index out of range"))
    (match position? (Value.rangeLength start stop step) i with
      | some k => return .int (start + k * step)
      | none => throw (.index "range object index out of range") : Run Fault Value) := by
  cases position? (Value.rangeLength start stop step) i with
  | none => exact .throw _
  | some k => exact .pure rfl

theorem rangeSubscript_moved (start stop step : Int) (index : Value) :
    Follows g (Value.moved g) (subscript (.range start stop step) index)
      (subscript (.range start stop step) (index.moved g)) := by
  refine Follows.get_bind fun s t h => ?_
  have hpath := Value.typePath_moved g index
  cases index with
  | slice a b c =>
    simp only [Value.moved, sliceRange_moved]
    exact (Follows.same _).bind fun r => .pure rfl
  | bool b => exact rangeIndex_moved start stop step _
  | int i => exact rangeIndex_moved start stop step i
  | _ =>
    exact .throw_of_eq (congrArg
      (fun path => Fault.type ("range indices must be integers or slices, not " ++ path)) hpath)

theorem subscript_moved (v index : Value) :
    Follows g (Value.moved g) (subscript v index) (subscript (v.moved g) (index.moved g)) := by
  have hpath := Value.typePath_moved g v
  cases v with
  | range start stop step => exact rangeSubscript_moved start stop step index
  | text s | fragment s | bytes s =>
    exact .get_bind fun _ _ _ =>
      pickItems_same s index (fun _ => rfl) (fun _ => .pure rfl) _ _
  | tuple items =>
    refine .get_bind fun s t h => ?_
    simp only [Value.moved, Value.movedItems_eq]
    refine pickItems_moved items index ?_ ?_ _ _
    · exact fun _ => rfl
    · exact fun l => .pure (by rw [Value.moved, Value.movedItems_eq])
  | list r =>
    refine .get_bind fun s t h => ?_
    simp only [Value.moved, h.items]
    refine pickItems_moved (s.items r) index ?_ ?_ _ _
    · exact fun _ => rfl
    · exact .newList
  | dict r | frame r =>
    refine .get_bind fun s t h => ?_
    simp only [Value.moved, h.entries]
    exact pickEntry_moved _ index
  | _ =>
    exact .get_bind fun _ _ _ => .throw_of_eq
      (congrArg (fun path => Fault.type ("'" ++ path ++ "' object is not subscriptable")) hpath)

/-! ## Elements -/

namespace Store.Moved

variable {s t : Store} (h : s.Moved g t)
include h

theorem elements? (v : Value) :
    t.elements? (v.moved g) = (s.elements? v).map (List.map (Value.moved g)) := by
  cases v with
  | text x | fragment x | bytes x | range _ _ _ =>
    simp [Value.moved, Store.elements?, Function.comp_def]
  | tuple items => simp [Value.moved, Store.elements?]
  | list r => simp [Value.moved, Store.elements?, h.items]
  | dict r => simp [Value.moved, Store.elements?, h.entries, movedEntry, Function.comp_def]
  | view m kind r => simp [Value.moved, Store.elements?, h.entries]
  | _ => rfl

theorem isIterable (v : Value) : t.isIterable (v.moved g) = s.isIterable v := by
  have helements := congrArg Option.isSome (h.elements? v)
  rw [Option.isSome_map] at helements
  cases v with
  | iterator r | generator r | frame r => rfl
  | _ => exact helements

end Store.Moved

/-- An iterator over elements that are there already. -/
theorem iterateValues_moved (v : Value) : Follows g g.ref
    (do
      match (← get).elements? v with
      | some items => Run.newIterator (.values items)
      | none => throw (.type ("'" ++ v.typePath ++ "' object is not iterable")) : Run Fault Ref)
    (do
      match (← get).elements? (v.moved g) with
      | some items => Run.newIterator (.values items)
      | none => throw (.type ("'" ++ (v.moved g).typePath ++ "' object is not iterable"))) := by
  refine .get_bind fun s t h => ?_
  rw [h.elements?, Value.typePath_moved]
  rcases s.elements? v with _ | items
  · exact .throw _
  · exact .newIterator (.values items)

theorem iterate_moved (v : Value) : Follows g g.ref (iterate v) (iterate (v.moved g)) := by
  have hvalues := iterateValues_moved (g := g) v
  cases v with
  | iterator r | generator r => exact .pure rfl
  | list r => exact .newIterator (.items r 0)
  | dict r =>
    refine .get_bind fun s t h => ?_
    rw [h.dictionary, Dictionary.size_moved]
    exact .newIterator (.entries r .keys 0 (s.dictionary r).size 0)
  | view m kind r =>
    refine .get_bind fun s t h => ?_
    rw [h.dictionary, Dictionary.size_moved]
    exact .newIterator (.entries r kind 0 (s.dictionary r).size 0)
  | frame r => exact .newIterator (.columns r 0)
  | range start stop step => exact .newIterator (.range start stop step)
  | _ => exact hvalues

theorem checkLength_moved (v : Value) : Follows g id (checkLength v) (checkLength (v.moved g)) := by
  cases v with
  | range start stop step =>
    simp only [Value.moved, checkLength]
    split
    · exact .pure rfl
    · exact .throw _
  | _ => exact .pure rfl

theorem countElements_moved (v : Value) : Follows g (Value.moved g)
    (do
      match (← get).elements? v with
      | some items => return .int items.length
      | none => throw (.type ("object of type '" ++ v.typePath ++ "' has no len()")) :
      Run Fault Value)
    (do
      match (← get).elements? (v.moved g) with
      | some items => return .int items.length
      | none =>
        throw (.type ("object of type '" ++ (v.moved g).typePath ++ "' has no len()"))) := by
  refine .get_bind fun s t h => ?_
  rw [h.elements?, Value.typePath_moved]
  rcases s.elements? v with _ | items
  · exact .throw _
  · exact .pure (by simp [Value.moved])

theorem lengthOf_moved (v : Value) :
    Follows g (Value.moved g) (lengthOf v) (lengthOf (v.moved g)) := by
  have hcount := countElements_moved (g := g) v
  refine (checkLength_moved v).bind fun _ => ?_
  cases v with
  | range start stop step => exact .pure rfl
  | object m typeName label sized =>
    cases sized with
    | true => exact .pure rfl
    | false => exact hcount
  | _ => exact hcount

theorem checkSumStart_moved (v : Value) :
    Follows g id (checkSumStart v) (checkSumStart (v.moved g)) := by
  cases v with
  | text s | fragment s | bytes s => exact .throw _
  | _ => exact .pure rfl

/-! ## Sorting -/

namespace Store.Moved

variable {s t : Store} (h : s.Moved g t)
include h

theorem frontRun (falling : Bool) (last : Value × Value) (run rest : List (Value × Value)) :
    t.frontRun falling (movedEntry g last) (run.map (movedEntry g)) (rest.map (movedEntry g)) =
      (s.frontRun falling last run rest).map fun (run, rest) =>
        (run.map (movedEntry g), rest.map (movedEntry g)) := by
  induction rest generalizing last run with
  | nil => rfl
  | cons e rest ih =>
    have hrun := ih e (e :: run)
    rw [List.map_cons] at hrun
    rw [List.map_cons, Store.frontRun, Store.frontRun]
    simp only [movedEntry] at hrun ⊢
    rw [h.before]
    rcases s.before e.1 last.1 with fault | b
    · rfl
    · simp only [bind, Except.bind]
      split
      · exact hrun
      · rfl

theorem placeOf (sorted : Array (Value × Value)) (key : Value) (low high : Nat) :
    t.placeOf (sorted.map (movedEntry g)) (key.moved g) low high =
      s.placeOf sorted key low high := by
  fun_induction Store.placeOf s sorted key low high with
  | case1 low high middle e he hlt ihLow ihHigh =>
    have he' : sorted[low + (high - low) / 2]? = some e := he
    have hkey : t.before (key.moved g) (movedEntry g e).1 = s.before key e.1 := h.before key e.1
    rw [Store.placeOf, Array.getElem?_map, he', Option.map_some]
    simp only [hlt, dite_true, hkey, middle] at ihLow ihHigh ⊢
    rw [ihLow, ihHigh]
  | case2 low high middle e he hlt =>
    have he' : sorted[low + (high - low) / 2]? = some e := he
    rw [Store.placeOf, Array.getElem?_map, he', Option.map_some]
    simp only [hlt, dite_false]
  | case3 low high middle he =>
    have he' : sorted[low + (high - low) / 2]? = none := he
    rw [Store.placeOf, Array.getElem?_map, he', Option.map_none]

/-- Putting entries in their places one after the other. -/
theorem foldlM_placeOf (rest : List (Value × Value)) (done : Array (Value × Value)) :
    (rest.map (movedEntry g)).foldlM
        (fun done e => do
          return done.insertIdxIfInBounds (← t.placeOf done e.1 0 done.size) e)
        (done.map (movedEntry g)) =
      (rest.foldlM (fun done e => do
          return done.insertIdxIfInBounds (← s.placeOf done e.1 0 done.size) e) done :
        Except Fault _).map (Array.map (movedEntry g)) := by
  induction rest generalizing done with
  | nil => rfl
  | cons e rest ih =>
    have hplace : t.placeOf (done.map (movedEntry g)) (movedEntry g e).1 0
        (done.map (movedEntry g)).size = s.placeOf done e.1 0 done.size := by
      rw [Array.size_map]
      exact h.placeOf done e.1 0 done.size
    rw [List.map_cons, List.foldlM_cons, List.foldlM_cons, hplace]
    have hinsert (i : Nat) : (done.map (movedEntry g)).insertIdxIfInBounds i (movedEntry g e) =
        (done.insertIdxIfInBounds i e).map (movedEntry g) := by
      rcases done with ⟨items⟩
      simp [List.map_insertIdx]
    rcases s.placeOf done e.1 0 done.size with fault | i
    · rfl
    · have hrest := ih (done.insertIdxIfInBounds i e)
      rw [← hinsert] at hrest
      exact hrest

theorem sortEntries (entries : List (Value × Value)) :
    t.sortEntries (entries.map (movedEntry g)) =
      (s.sortEntries entries).map (List.map (movedEntry g)) := by
  rcases entries with _ | ⟨first, _ | ⟨second, rest⟩⟩
  · rfl
  · rfl
  rw [List.map_cons, List.map_cons, Store.sortEntries, Store.sortEntries]
  have hfirst : t.before (movedEntry g second).1 (movedEntry g first).1 =
      s.before second.1 first.1 := h.before second.1 first.1
  rw [hfirst]
  rcases s.before second.1 first.1 with fault | falling
  · rfl
  have hfront := h.frontRun falling second [second, first] rest
  simp only [List.map_cons, List.map_nil] at hfront
  simp only [bind, Except.bind, hfront]
  rcases s.frontRun falling second [second, first] rest with fault | ⟨run, rest⟩
  · rfl
  have hstart :
      (if falling then run.map (movedEntry g) else (run.map (movedEntry g)).reverse).toArray =
        (if falling then run else run.reverse).toArray.map (movedEntry g) := by
    split <;> simp
  have hlist (r r' : Except Fault (Array (Value × Value)))
      (hr : r' = r.map (Array.map (movedEntry g))) :
      (do return (← r').toList) = (do return (← r).toList : Except Fault _).map
        (List.map (movedEntry g)) := by
    rw [hr]
    cases r with
    | error fault => rfl
    | ok sorted => exact congrArg Except.ok Array.toList_map
  have hsorted := h.foldlM_placeOf rest (if falling then run else run.reverse).toArray
  rw [← hstart] at hsorted
  exact hlist _ _ hsorted

end Store.Moved

theorem sortByKeys_moved (reverse : Bool) (entries : List (Value × Value)) :
    Follows g (List.map (Value.moved g)) (sortByKeys reverse entries)
      (sortByKeys reverse (entries.map (movedEntry g))) := by
  have hvalues (entries : List (Value × Value)) :
      (entries.map (movedEntry g)).map (·.2) = (entries.map (·.2)).map (Value.moved g) := by
    simp [movedEntry, Function.comp_def]
  refine .get_bind fun s t h => ?_
  have hreverse : (if reverse then (entries.map (movedEntry g)).reverse
      else entries.map (movedEntry g)) =
      (if reverse then entries.reverse else entries).map (movedEntry g) := by
    split <;> simp
  rw [hreverse, h.sortEntries]
  refine (Follows.ofExcept rfl).bind fun sorted => .pure ?_
  split
  · rw [← List.map_reverse, hvalues]
  · exact hvalues sorted

end Stencil
