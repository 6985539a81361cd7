import Stencil.Proofs.Moved.Elements

/-!
# Operations on moved values

Functions, methods and comparisons do with moved values what they do with the values themselves.
-/

namespace Stencil

open Run (Follows)

variable {g : Gap}

/-! ## Functions -/

theorem wrongArguments_moved {α β : Type} {f : α → β} (name : String) :
    Follows g f (wrongArguments name) (wrongArguments name) :=
  .throw _

theorem wrongArguments_bind_moved {α β γ δ : Type} {f : α → β} (name : String)
    (k : γ → Run Fault α) (l : δ → Run Fault β) :
    Follows g f (wrongArguments name >>= k) (wrongArguments name >>= l) :=
  .throw_bind _ k l

theorem onlyNamed_moved (a : Arguments) (names : List String) :
    (a.moved g).onlyNamed names = a.onlyNamed names :=
  List.all_map

theorem flagOf_moved (v : Value) : Follows g id (flagOf v) (flagOf (v.moved g)) := by
  rw [flagOf, flagOf, Value.int?_moved, Value.typePath_moved]
  rcases v.int? with _ | i
  · exact .throw _
  · simp only
    split
    · exact .pure rfl
    · exact .throw _

theorem isBetter_moved (greatest : Bool) (best : Option (Value × Value)) (key : Value) :
    Follows g id (isBetter greatest best key)
      (isBetter greatest (best.map (movedEntry g)) (key.moved g)) := by
  refine .get_bind fun s t h => ?_
  rcases best with _ | e
  · exact .pure rfl
  · have hafter : t.after (key.moved g) (movedEntry g e).1 = s.after key e.1 := h.after key e.1
    have hbefore : t.before (key.moved g) (movedEntry g e).1 = s.before key e.1 := h.before key e.1
    simp only [Option.map_some, hafter, hbefore]
    exact .same _

theorem absoluteOf_moved (v : Value) :
    Follows g (Value.moved g) (absoluteOf v) (absoluteOf (v.moved g)) := by
  have hpath := Value.typePath_moved g v
  cases v with
  | float x m => exact marked_moved (.float (if isNegativeFloat x then -x else x) 0)
  | complex z => exact .pure (by simp [Value.moved])
  | decimal d m => exact marked_of_unmoved (unmoved_decimalResult _)
  | duration d => exact ofExcept_of_unmoved (unmoved_durationResult _)
  | bool b | int i => exact .pure rfl
  | _ =>
    exact .throw_of_eq
      (congrArg (fun path => Fault.type ("bad operand type for abs(): '" ++ path ++ "'")) hpath)

theorem rangeOf_moved (arguments : List Value) :
    Follows g (Value.moved g) (rangeOf arguments) (rangeOf (arguments.map (Value.moved g))) := by
  rw [rangeOf, rangeOf]
  refine (Follows.mapM_same (fun v => ?_) arguments).bind fun bounds => ?_
  · rw [Value.int?_moved, Value.typePath_moved]
    rcases v.int? with _ | i
    · exact .throw _
    · exact .pure rfl
  · rcases bounds with _ | ⟨a, _ | ⟨b, _ | ⟨c, _ | ⟨d, rest⟩⟩⟩⟩
    · exact wrongArguments_moved _
    · exact .pure rfl
    · exact .pure rfl
    · simp only [id_eq]
      split
      · exact .throw _
      · exact .pure rfl
    · exact wrongArguments_moved _

theorem spelledNumber?_moved (v : Value) : spelledNumber? (v.moved g) = spelledNumber? v := by
  cases v <;> rfl

theorem convertToInt_moved (v : Value) :
    Follows g (Value.moved g) (convertToInt v) (convertToInt (v.moved g)) := by
  rw [convertToInt, convertToInt, spelledNumber?_moved, Value.toInt_moved, Value.typePath_moved]
  rcases spelledNumber? v with _ | s
  · exact (Follows.same _).bind fun _ => .pure rfl
  · exact (Follows.same _).bind fun _ => .pure rfl

theorem convertToIntIn_moved (base v : Value) :
    Follows g (Value.moved g) (convertToIntIn base v)
      (convertToIntIn (base.moved g) (v.moved g)) := by
  rw [convertToIntIn, convertToIntIn, spelledNumber?_moved, Value.int?_moved, Value.typePath_moved]
  rcases base.int? with _ | b
  · exact .throw _
  · simp only
    split
    · exact .throw _
    · rcases spelledNumber? v with _ | s
      · exact .throw _
      · exact (Follows.same _).bind fun _ => .pure rfl

theorem convertToFloat_moved (v : Value) :
    Follows g (Value.moved g) (convertToFloat v) (convertToFloat (v.moved g)) := by
  have hpath := Value.typePath_moved g v
  have hnumber (r : Except Fault Float) : Follows g (Value.moved g)
      (do Run.marked (.float (← Run.ofExcept r) 0) : Run Fault Value)
      (do Run.marked (.float (← Run.ofExcept r) 0)) :=
    (Follows.same r).bind fun x => marked_moved (.float x 0)
  have hother : Follows g (Value.moved g)
      (do
        Run.marked (.float (← Run.ofExcept (v.toFloat
          ("float() argument must be a string or a real number, not '" ++ v.typePath ++ "'"))) 0) :
        Run Fault Value)
      (do
        Run.marked (.float (← Run.ofExcept ((v.moved g).toFloat
          ("float() argument must be a string or a real number, not '" ++ (v.moved g).typePath ++
            "'"))) 0)) := by
    rw [hpath, Value.toFloat_moved]
    exact hnumber _
  cases v with
  | float x m => exact .pure rfl
  | text s | fragment s | bytes s => exact hnumber _
  | _ => exact hother

theorem positionOf_moved (v : Value) : Follows g id (positionOf v) (positionOf (v.moved g)) := by
  rw [positionOf, positionOf, Value.int?_moved, Value.typePath_moved]
  rcases v.int? with _ | i
  · exact .throw _
  · simp only
    split
    · exact .pure rfl
    · exact .throw _

/-! ## Methods of texts -/

theorem stripText_moved (s : Text) (characters : Value) :
    Follows g (Value.moved g) (stripText s characters) (stripText s (characters.moved g)) := by
  cases characters with
  | none | text cs | fragment cs => exact .pure rfl
  | _ => exact .throw _

theorem newTexts_moved (texts : List Text) :
    Follows g (Value.moved g) (Run.newList (texts.map .text) : Run Fault Value)
      (Run.newList (texts.map .text)) := by
  have h := Follows.newList (g := g) (ε := Fault) (texts.map .text)
  rwa [List.map_map] at h

theorem splitText_moved (s : Text) (sep limit : Value) :
    Follows g (Value.moved g) (splitText s sep limit)
      (splitText s (sep.moved g) (limit.moved g)) := by
  have hpath := Value.typePath_moved g sep
  refine (positionOf_moved limit).bind fun limit => ?_
  cases sep with
  | none => exact newTexts_moved _
  | text sep | fragment sep =>
    cases sep with
    | nil => exact .throw _
    | cons c sep => exact newTexts_moved _
  | _ =>
    exact .throw_of_eq
      (congrArg (fun path => Fault.type ("must be str or None, not " ++ path)) hpath)

theorem joinTexts_moved (sep : Text) (items : List Value) :
    Follows g (Value.moved g) (joinTexts sep items)
      (joinTexts sep (items.map (Value.moved g))) := by
  rw [joinTexts, joinTexts, List.zipIdx_map]
  refine (Follows.mapM_same (fun p => ?_) items.zipIdx).bind fun texts => .pure rfl
  obtain ⟨v, i⟩ := p
  simp only [Prod.map, Value.text?_moved, Value.typePath_moved, id_eq]
  rcases v.text? with _ | t
  · exact .throw _
  · exact .pure rfl

theorem argumentName_moved (v : Value) : argumentName (v.moved g) = argumentName v := by
  have hpath := Value.typePath_moved g v
  cases v with
  | none => rfl
  | _ => exact hpath

theorem replaceText_moved (s : Text) (old new count : Value) :
    Follows g (Value.moved g) (replaceText s old new count)
      (replaceText s (old.moved g) (new.moved g) (count.moved g)) := by
  simp only [replaceText, Value.text?_moved, argumentName_moved]
  rcases old.text? with _ | before
  · exact .throw _
  · rcases new.text? with _ | after
    · exact .throw _
    · exact (positionOf_moved count).bind fun _ => .pure rfl

theorem startsWithText_moved (s : Text) (start low high : Value) :
    Follows g (Value.moved g) (startsWithText s start low high)
      (startsWithText s (start.moved g) (low.moved g) (high.moved g)) := by
  have hpath := Value.typePath_moved g start
  have hpart : partBetween s (low.moved g) (high.moved g) = partBetween s low high := by
    rw [partBetween, partBetween, sliceBound_moved, sliceBound_moved]
  simp only [startsWithText, hpart]
  refine (Follows.same _).bind fun part => ?_
  cases start with
  | tuple items =>
    simp only [Value.moved, Value.movedItems_eq]
    refine (Follows.anyM (fun v => ?_) items).bind fun b => .pure rfl
    rw [Value.text?_moved, Value.typePath_moved]
    rcases v.text? with _ | t
    · exact .throw _
    · exact .pure rfl
  | text t | fragment t => exact .pure rfl
  | _ =>
    exact .throw_of_eq (congrArg (fun path => Fault.type
      ("startswith first arg must be str or a tuple of str, not " ++ path)) hpath)

/-! ## Methods of lists and dictionaries -/

theorem popItem_moved (r : Ref) (index : Value) :
    Follows g (Value.moved g) (popItem r index) (popItem (g.ref r) (index.moved g)) := by
  refine .get_bind fun s t h => ?_
  rw [h.items]
  refine (positionOf_moved index).bind fun i => ?_
  rw [List.isEmpty_map, List.length_map, id_eq]
  split
  · exact .throw _
  · rcases position? (s.items r).length i with _ | k
    · exact .throw _
    · have hreplaced := Follows.replace (g := g) (ε := Fault) r (.list ((s.items r).eraseIdx k))
      rw [Cell.moved, ← List.eraseIdx_map] at hreplaced
      refine hreplaced.bind fun _ => .pure ?_
      rw [List.getElem?_map]
      cases (s.items r)[k]? <;> rfl

theorem popEntry_moved (r : Ref) (key : Value) (default : Option Value) :
    Follows g (Value.moved g) (popEntry r key default)
      (popEntry (g.ref r) (key.moved g) (default.map (Value.moved g))) := by
  refine .get_bind fun s t h => ?_
  simp only [h.dictionary, Dictionary.size_moved, h.entryAt?, h.quoted]
  have hfound : (if (s.dictionary r).size = 0 then .ok none
      else (s.entryAt? (s.dictionary r) key).map (Option.map (Prod.map id (Value.moved g)))) =
      (if (s.dictionary r).size = 0 then .ok none else s.entryAt? (s.dictionary r) key).map
        (Option.map (Prod.map id (Value.moved g))) := by
    split <;> rfl
  rw [hfound]
  refine (Follows.ofExcept rfl).bind fun found => ?_
  rcases found with _ | ⟨place, v⟩
  · rcases default with _ | v
    · exact (Follows.same _).bind fun _ => .throw _
    · exact .pure rfl
  · have hreplaced := Follows.replace (g := g) (ε := Fault) r
      (.dict ((s.dictionary r).eraseAt place))
    rw [Cell.moved, ← Dictionary.eraseAt_moved] at hreplaced
    exact hreplaced.bind fun _ => .pure rfl

theorem putEntries_moved (r : Ref) (entries : List (Value × Value)) :
    Follows g id (putEntries r entries) (putEntries (g.ref r) (entries.map (movedEntry g))) := by
  refine Follows.forM (fun e => ?_) entries
  refine Follows.get_bind fun s t h => ?_
  simp only [h.dictionary, h.insert]
  exact (Follows.ofExcept rfl).bind fun d => .replace r (.dict d)

theorem putAll_moved (r other : Ref) :
    Follows g id (putAll r other) (putAll (g.ref r) (g.ref other)) := by
  refine .get_bind fun s t h => ?_
  simp only [ne_eq, Gap.ref_inj, h.dictionary, h.entries, Dictionary.readyForAll_moved]
  split
  · exact (Follows.replace r (.dict _)).bind fun _ => putEntries_moved r _
  · exact .pure rfl

/-! ## Members -/

theorem namedNumbers_moved (v : Value) : namedNumbers (v.moved g) = namedNumbers v := by
  cases v <;> rfl

/-- A member that may have been found. -/
theorem foundMember_moved {found found' : Option Value} {owner owner' : String} {name : Text} :
    found' = found.map (Value.moved g) → owner' = owner → Follows g (Value.moved g)
      (match found with
        | some m => return m
        | none => throw (.member (owner ++ " has no attribute '" ++ String.ofList name ++ "'")))
      (match found' with
        | some m => return m
        | none => throw (.member (owner' ++ " has no attribute '" ++ String.ofList name ++ "'")) :
        Run Fault Value) := by
  rintro rfl rfl
  rcases found with _ | m
  · exact .throw _
  · exact .pure rfl

theorem memberOf_moved (v : Value) (name : Text) :
    Follows g (Value.moved g) (memberOf v name) (memberOf (v.moved g) name) := by
  have howner := congrArg (fun path => "'" ++ path ++ "' object") (Value.typePath_moved g v)
  have hnumber : ((namedNumbers (v.moved g)).lookup (String.ofList name)).map Value.int =
      (((namedNumbers v).lookup (String.ofList name)).map Value.int).map (Value.moved g) := by
    rw [namedNumbers_moved, Option.map_map]
    rfl
  cases v with
  | text s | fragment s | list r | dict r =>
    refine foundMember_moved ?_ howner
    rw [Option.map_map]
    rfl
  | failure text cause =>
    refine foundMember_moved ?_ howner
    simp only [Value.moved]
    split
    · rfl
    · split <;> rfl
  | frame r =>
    refine foundMember_moved ?_ howner
    simp only [Value.moved]
    split <;> rfl
  | type t =>
    refine foundMember_moved ?_ rfl
    simp only [Value.moved]
    split
    · rfl
    · rw [Option.map_map]
      rfl
  | _ => exact foundMember_moved hnumber howner

theorem setMember_moved (v : Value) (name : Text) :
    Follows g id (setMember v name) (setMember (v.moved g) name) := by
  rw [setMember, setMember, Value.typePath_moved]
  exact (memberOf_moved v name).bind fun _ => .throw _

theorem setElement_moved (container index v : Value) :
    Follows g id (setElement container index v)
      (setElement (container.moved g) (index.moved g) (v.moved g)) := by
  have hpath := Value.typePath_moved g container
  have hindex := Value.typePath_moved g index
  refine .get_bind fun s t h => ?_
  rw [Value.int?_moved]
  cases container with
  | list r =>
    rcases index.int? with _ | i
    · exact .throw_of_eq (congrArg
        (fun path => Fault.type ("list indices must be integers or slices, not " ++ path)) hindex)
    · simp only [Value.moved, h.items, List.length_map, ← List.map_set]
      rcases position? (s.items r).length i with _ | k
      · exact .throw _
      · exact .replace r (.list _)
  | dict r => exact putEntries_moved r [(index, v)]
  | _ =>
    exact .throw_of_eq (congrArg
      (fun path => Fault.type ("'" ++ path ++ "' object does not support item assignment")) hpath)

theorem foldl_set_moved (places : List Int) (items old : List Value) :
    (places.zip (items.map (Value.moved g))).foldl (fun l (i, v) => l.set i.toNat v)
        (old.map (Value.moved g)) =
      ((places.zip items).foldl (fun l (i, v) => l.set i.toNat v) old).map (Value.moved g) := by
  induction places generalizing items old with
  | nil => rfl
  | cons i places ih =>
    cases items with
    | nil => rfl
    | cons v items =>
      rw [List.map_cons, List.zip_cons_cons, List.zip_cons_cons, List.foldl_cons,
        List.foldl_cons, ← ih, List.map_set]

theorem setSlice_moved (r : Ref) (start stop step : Value) (items : List Value) :
    Follows g id (setSlice r start stop step items)
      (setSlice (g.ref r) (start.moved g) (stop.moved g) (step.moved g)
        (items.map (Value.moved g))) := by
  refine .get_bind fun s t h => ?_
  simp only [h.items, List.length_map, sliceRange_moved]
  refine (Follows.same _).bind fun range => ?_
  simp only [id_eq]
  split
  · rw [← List.map_take, ← List.map_drop, ← List.map_append, ← List.map_append]
    exact .replace r (.list _)
  · split
    · rw [foldl_set_moved]
      exact .replace r (.list _)
    · exact .throw _

/-! ## Comparisons -/

theorem wholeNumber?_moved (v : Value) : wholeNumber? (v.moved g) = wholeNumber? v := by
  cases v <;> rfl

/-- Whether one of some values is an element. -/
theorem anySame_moved {s t : Store} (h : s.Moved g t) (items : List Value) (element : Value) :
    Follows g id
      (items.anyM fun x => Run.ofExcept (s.same x element) : Run Fault Bool)
      ((items.map (Value.moved g)).anyM fun x => Run.ofExcept (t.same x (element.moved g))) := by
  refine Follows.anyM (fun x => ?_) items
  rw [h.same]
  exact .same _

theorem containsElement_moved {s t : Store} (h : s.Moved g t) (container element : Value) :
    Follows g id
      (match s.elements? container with
        | some items => items.anyM fun x => Run.ofExcept (s.same x element)
        | none => throw
          (.type ("argument of type '" ++ container.typePath ++ "' is not iterable")) :
        Run Fault Bool)
      (match t.elements? (container.moved g) with
        | some items => items.anyM fun x => Run.ofExcept (t.same x (element.moved g))
        | none => throw
          (.type ("argument of type '" ++ (container.moved g).typePath ++
            "' is not iterable"))) := by
  rw [h.elements?, Value.typePath_moved]
  rcases s.elements? container with _ | items
  · exact .throw _
  · exact anySame_moved h items element

theorem contains_moved (container element : Value) :
    Follows g id (contains container element) (contains (container.moved g) (element.moved g)) := by
  have helement := Value.typePath_moved g element
  refine .get_bind fun s t h => ?_
  have helements := containsElement_moved h container element
  cases container with
  | text x | fragment x =>
    simp only [Value.moved, Value.text?_moved, Value.typePath_moved]
    rcases element.text? with _ | p
    · exact .throw _
    · exact .pure rfl
  | dict r =>
    simp only [Value.moved, h.entries, h.lookup]
    refine (Follows.ofExcept rfl).bind fun found => .pure ?_
    rw [Option.isSome_map]
    rfl
  | view m kind r =>
    cases kind with
    | values =>
      simp only [Value.moved, h.entries, Store.viewItems_moved]
      exact anySame_moved h _ element
    | keys | items =>
      simp only [Value.moved, h.entries, Store.viewHas_moved h.equal]
      exact .same _
  | range start stop step =>
    simp only [Value.moved, wholeNumber?_moved, Value.isSignaling_moved]
    rcases wholeNumber? element with _ | i
    · simp only
      split
      · exact .throw _
      · exact .pure rfl
    · exact .pure rfl
  | bytes b =>
    -- numbers that are no bytes are refused rather than not found
    have hbyte (i : Int) : Follows g id
        (if 0 ≤ i ∧ i < 256 then return b.contains (UInt8.ofNat i.toNat)
          else throw (.value "byte must be in range(0, 256)") : Run Fault Bool)
        (if 0 ≤ i ∧ i < 256 then return b.contains (UInt8.ofNat i.toNat)
          else throw (.value "byte must be in range(0, 256)")) := by
      split
      · exact .pure rfl
      · exact .throw _
    cases element with
    | bytes p => exact .pure rfl
    | bool i | int i => exact hbyte _
    | _ =>
      exact .throw_of_eq (congrArg
        (fun path => Fault.type ("a bytes-like object is required, not '" ++ path ++ "'")) helement)
  | _ => exact helements

theorem compareViews?_moved {s t : Store} (h : s.Moved g t) (op : Expr.CompareOp) (a b : Value) :
    compareViews? t op (a.moved g) (b.moved g) = compareViews? s op a b := by
  cases a with
  | view m k r =>
    cases b with
    | view m' k' q =>
      simp only [Value.moved, compareViews?, h.entries, List.length_map,
        Store.viewWithin_moved h.equal]
    | _ => rfl
  | _ => rfl

/-- A comparison of order, which may have no answer. -/
theorem ordered_moved {s t : Store} (h : s.Moved g t) (symbol : String) (p : Ordering → Bool)
    (a b : Value) : Follows g id
      (do
        match ← Run.ofExcept (s.order? symbol maxValueDepth a b) with
        | some o => return p o
        | none => return false : Run Fault Bool)
      (do
        match ← Run.ofExcept (t.order? symbol maxValueDepth (a.moved g) (b.moved g)) with
        | some o => return p o
        | none => return false) := by
  rw [h.order?]
  refine (Follows.same _).bind fun o => ?_
  rcases o with _ | o <;> exact .pure rfl

theorem compareValues_moved (op : Expr.CompareOp) (a b : Value) :
    Follows g id (compareValues op a b) (compareValues op (a.moved g) (b.moved g)) := by
  refine .get_bind fun s t h => ?_
  simp only [compareViews?_moved h]
  rcases compareViews? s op a b with _ | r
  · cases op with
    | lt | le | gt | ge => exact ordered_moved h _ _ a b
    | eq =>
      simp only [h.equal]
      exact .same _
    | ne =>
      simp only [h.equal]
      exact (Follows.same _).bind fun _ => .pure rfl
    | is | isNot =>
      refine .pure ?_
      rw [Value.identical_moved]
      rfl
    | isIn => exact contains_moved b a
    | notIn => exact (contains_moved b a).bind fun _ => .pure rfl
  · exact .same r

end Stencil
