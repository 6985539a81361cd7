import Stencil.Value.Arithmetic

/-!
# Subscripts

What a subscript picks out of a value: an element by its position, counted from either end, a slice,
or the value of a key.
-/

namespace Stencil

/-! ## Positions -/

/-- The position that an index stands for in a sequence; negative ones count from the end. -/
def position? (length : Nat) (i : Int) : Option Nat :=
  if 0 ≤ i ∧ i < length then some i.toNat
  else if i < 0 ∧ 0 ≤ i + length then some (i + length).toNat
  else none

/-- The first position, the end and the step of a slice of a sequence. -/
structure SliceRange where
  start : Int
  stop : Int
  step : Int
  deriving DecidableEq, Repr

/-- The bound of a slice, or a default where it is left out. -/
def sliceBound (v : Value) (default : Int) : Except Fault Int :=
  match v, v.int? with
  | .none, _ => .ok default
  | _, some i => .ok i
  | _, none => .error (.type
    "slice indices must be integers or None or have an __index__ method")

/-- Whether an integer is one that a position in a sequence can be. -/
def fitsPosition (i : Int) : Bool :=
  -(Number.twos 63) ≤ i && i < Number.twos 63

/-- What a slice of a sequence goes through. Bounds outside the sequence are moved to its ends. -/
def sliceRange (length : Nat) (start stop step : Value) : Except Fault SliceRange := do
  let step ← sliceBound step 1
  if step = 0 then .error (.value "slice step cannot be zero")
  let low : Int := if step < 0 then -1 else 0
  let high : Int := if step < 0 then length - 1 else length
  let clamp (i : Int) : Int :=
    let i := if i < 0 then i + length else i
    max low (min high i)
  let startAt ← sliceBound start (if step < 0 then high else low)
  let stopAt ← sliceBound stop (if step < 0 then low else high)
  let start' := match start with
    | .none => startAt
    | _ => clamp startAt
  let stop' := match stop with
    | .none => stopAt
    | _ => clamp stopAt
  return ⟨start', stop', step⟩

/-- The numbers of a range. -/
def rangeItems (start stop step : Int) : List Int :=
  (List.range (Value.rangeLength start stop step)).map fun (k : Nat) => start + (k : Int) * step

/-- The elements of a list at the positions of a slice. -/
def sliceItems {α : Type} (items : List α) (r : SliceRange) : List α :=
  let all := items.toArray
  (rangeItems r.start r.stop r.step).filterMap fun i => all[i.toNat]?

/-! ## Subscripts -/

/-- What an index or slice picks out of a list of elements. The messages say that an index is
`outside`, or that what has a type is `refused` as an index. -/
def pickItems {α : Type} (items : List α) (index : Value) (ofItem : α → Value)
    (ofItems : List α → Run Fault Value) (outside : String) (refused : String → String) :
    Run Fault Value :=
  match index with
  | .slice start stop step => do
    ofItems (sliceItems items (← Run.ofExcept (sliceRange items.length start stop step)))
  | index =>
    match index.int? with
    | some i =>
      match (position? items.length i).bind fun k => items[k]? with
      | some x => return ofItem x
      | none =>
        if fitsPosition i then throw (.index outside)
        else throw (.index ("cannot fit '" ++ index.typePath ++ "' into an index-sized integer"))
    | none => throw (.type (refused index.typePath))

/-- What a dictionary gives for a key. -/
def pickEntry (entries : List (Value × Value)) (key : Value) : Run Fault Value := do
  match ← Run.ofExcept ((← get).lookup entries key) with
  | some v => return v
  | none => throw (.key (← Run.ofExcept ((← get).quoted key)))

/-- What a subscript picks out of a value. -/
def subscript (v index : Value) : Run Fault Value := do
  let s ← get
  match v with
  | .text t | .fragment t =>
    pickItems t index (fun c => .text [c]) (fun cs => return .text cs)
      "string index out of range" fun t => "string indices must be integers, not '" ++ t ++ "'"
  | .bytes b =>
    pickItems b index (fun n => .int n.toNat) (fun ns => return .bytes ns)
      "index out of range" ("byte indices must be integers or slices, not " ++ ·)
  | .tuple items =>
    pickItems items index id (fun xs => return .tuple xs)
      "tuple index out of range" ("tuple indices must be integers or slices, not " ++ ·)
  | .list r =>
    pickItems (s.items r) index id (fun xs => Run.newList xs)
      "list index out of range" ("list indices must be integers or slices, not " ++ ·)
  | .dict r => pickEntry (s.entries r) index
  | .frame r => pickEntry (s.entries r) index
  | .range start stop step =>
    let length := Value.rangeLength start stop step
    match index with
    | .slice a b c => do
      let r ← Run.ofExcept (sliceRange length a b c)
      return .range (start + r.start * step) (start + r.stop * step) (step * r.step)
    | index =>
      match index.int? with
      | some i =>
        match position? length i with
        | some k => return .int (start + k * step)
        | none => throw (.index "range object index out of range")
      | none => throw (.type ("range indices must be integers or slices, not " ++ index.typePath))
  | v => throw (.type ("'" ++ v.typePath ++ "' object is not subscriptable"))

end Stencil
