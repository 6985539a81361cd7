import Stencil.Value.Store

/-!
# Comparing values

Equality and order of values. Numbers of all types compare by their exact magnitude, texts by code
points, and sequences by the first elements that differ. What lists and dictionaries hold is looked
up in the store.
-/

namespace Stencil

/-- The greatest depth to which values are followed. -/
def maxValueDepth : Nat := 1000

/-! ## Numbers -/

/-- How large a number is: a quotient, or beyond all of them, or nothing that compares. -/
inductive Magnitude
  | nan
  | infinite (negative : Bool)
  | finite (numerator : Int) (denominator : Nat)
  deriving DecidableEq, Repr

namespace Magnitude

/-- The magnitude of a floating-point number. -/
def ofFloat (x : Float) : Magnitude :=
  match Number.parts x with
  | .nan => nan
  | .infinite negative => infinite negative
  | .finite negative m q =>
    let (num, den) := Number.binaryRatio m q
    finite (if negative then -num else num) den

/-- The magnitude of a decimal number. -/
def ofDecimal : Number.Decimal → Magnitude
  | .nan .. => nan
  | .infinite negative => infinite negative
  | .finite negative c e =>
    let (num, den) := Number.Decimal.ratio negative c e
    finite num den

/-- The order of two magnitudes; there is none beside what is not a number. -/
def order : Magnitude → Magnitude → Option Ordering
  | nan, _ | _, nan => none
  | infinite a, infinite b => some (if a == b then .eq else if a then .lt else .gt)
  | infinite a, finite .. => some (if a then .lt else .gt)
  | finite .., infinite b => some (if b then .gt else .lt)
  | finite a b, finite c d => some (compare (a * d) (c * b))

end Magnitude

namespace Value

/-- The magnitude of a number. -/
def magnitude? : Value → Option Magnitude
  | .bool b => some (.finite (if b then 1 else 0) 1)
  | .int i => some (.finite i 1)
  | .float x _ => some (.ofFloat x)
  | .decimal d _ => some (.ofDecimal d)
  | _ => Option.none

/-- Whether a value is a decimal number that no comparison takes. -/
def isSignaling : Value → Bool
  | .decimal (.nan _ signaling _) _ => signaling
  | _ => false

/-- How many elements a range has. -/
def rangeLength (start stop step : Int) : Nat :=
  if step > 0 then ((stop - start + step - 1).fdiv step).toNat
  else if step < 0 then ((start - stop - step - 1).fdiv (-step)).toNat
  else 0

mutual

/-- Whether two values are the same thing, whatever they hold. -/
def identical : Value → Value → Bool
  | .none, .none => true
  | .ellipsis, .ellipsis => true
  | .bool a, .bool b => a == b
  | .int a, .int b => a == b
  | .float a m, .float b n => a.toBits == b.toBits && m == n
  | .complex a, .complex b => a.re.toBits == b.re.toBits && a.im.toBits == b.im.toBits
  | .text a, .text b => a == b
  | .fragment a, .fragment b => a == b
  | .bytes a, .bytes b => a == b
  | .decimal a m, .decimal b n => a == b && m == n
  | .date a, .date b => a == b
  | .datetime a t, .datetime b u => a == b && t == u
  | .time a, .time b => a == b
  | .duration a, .duration b => a == b
  | .tuple xs, .tuple ys => identicalItems xs ys
  | .range a b c, .range a' b' c' => a == a' && b == b' && c == c'
  | .list a, .list b => a == b
  | .dict a, .dict b => a == b
  | .view m _ _, .view n _ _ => m == n
  | .iterator a, .iterator b => a == b
  | .generator a, .generator b => a == b
  | .style a, .style b => a == b
  | .object m a s _, .object n b t _ => m == n && a == b && s == t
  | .frame a, .frame b => a == b
  | .connection a, .connection b => a == b
  | .database, .database => true
  | .type a, .type b => a == b
  | .function a, .function b => a == b
  | .builtins, .builtins => true
  | _, _ => false

/-- Whether two lists hold the same things. -/
def identicalItems : List Value → List Value → Bool
  | [], [] => true
  | x :: xs, y :: ys => identical x y && identicalItems xs ys
  | _, _ => false

end

/-- The type that keeps a value from being a key, if it is not fit for one. -/
def unhashable? : Value → Option String
  | .list _ => some "list"
  | .dict _ => some "dict"
  | .decimal (.nan _ true _) _ => some "Decimal"
  | .slice _ _ _ => some "slice"
  | .view _ .keys _ => some "dict_keys"
  | .view _ .items _ => some "dict_items"
  | .tuple items => go items
  | _ => Option.none
where
  /-- The same for the elements of a tuple. -/
  go : List Value → Option String
    | [] => Option.none
    | v :: rest => match unhashable? v with
      | some t => some t
      | Option.none => go rest

end Value

/-! ## Equality -/

namespace Store

/-- Whether two elements are identical, or equal in the given sense. -/
def sameBy (equal : Value → Value → Except Fault Bool) (a b : Value) : Except Fault Bool :=
  if a.identical b then .ok true else equal a b

/-- The value of the first entry whose key is identical or equal to the given one. -/
def findBy (equal : Value → Value → Except Fault Bool) (entries : List (Value × Value))
    (key : Value) : Option Value :=
  (entries.find? fun (k, _) => (sameBy equal k key).toOption.getD false).map (·.2)

/-- What keeps a value from being looked up as a key. -/
def checkKey (key : Value) : Except Fault Unit :=
  match key.unhashable? with
  | some "Decimal" => .error (.type "Cannot hash a signaling NaN value")
  | some t => .error (.type ("unhashable type: '" ++ t ++ "'"))
  | none => .ok ()

/-- Whether a view of the keys or of the items of a dictionary has an element. -/
def viewHas (equal : Value → Value → Except Fault Bool) (kind : ViewKind)
    (entries : List (Value × Value)) (element : Value) : Except Fault Bool :=
  match kind, element with
  | .items, .tuple [k, v] => do
    checkKey k
    match findBy equal entries k with
    | some w => sameBy equal w v
    | none => return false
  | .items, _ => .ok false
  | _, k => do
    checkKey k
    return (findBy equal entries k).isSome

/-- The elements of a view. -/
def viewItems (kind : ViewKind) (entries : List (Value × Value)) : List Value :=
  match kind with
  | .keys => entries.map (·.1)
  | .values => entries.map (·.2)
  | .items => entries.map fun (k, v) => .tuple [k, v]

/-- Whether all elements of one view are in another. -/
def viewWithin (equal : Value → Value → Except Fault Bool) (k₁ : ViewKind)
    (e₁ : List (Value × Value)) (k₂ : ViewKind) (e₂ : List (Value × Value)) : Except Fault Bool :=
  (viewItems k₁ e₁).allM (viewHas equal k₂ e₂)

/-- Whether two numbers are equal: exactly, and both parts of complex ones. -/
def numbersEqual? (a b : Value) : Option (Except Fault Bool) :=
  match a, b with
  | .complex z, .complex w => some (.ok (z.re == w.re && z.im == w.im))
  | .complex z, v | v, .complex z =>
    v.magnitude?.map fun m =>
      if v.isSignaling then .error (.decimal .invalid)
      else .ok (z.im == 0.0 && m.order (.ofFloat z.re) == some .eq)
  | a, b =>
    match a.magnitude?, b.magnitude? with
    | some x, some y =>
      some (if a.isSignaling || b.isSignaling then .error (.decimal .invalid)
        else .ok (x.order y == some .eq))
    | _, _ => none

/-- Whether two values are equal, followed down to a depth. Elements of sequences and dictionaries
that are identical count as equal; views are equal if they have the same elements. -/
def equalTo (s : Store) : (depth : Nat) → Value → Value → Except Fault Bool
  | 0, _, _ => .error .depth
  | n + 1, a, b =>
    let sameItems (xs ys : List Value) : Except Fault Bool :=
      if xs.length = ys.length then (xs.zip ys).allM fun (x, y) => sameBy (equalTo s n) x y
      else .ok false
    match numbersEqual? a b, a.text?, b.text? with
    | some r, _, _ => r
    | none, some x, some y => .ok (x == y)
    | none, _, _ =>
      match a, b with
      | .tuple xs, .tuple ys => sameItems xs ys
      | .list r, .list t => if r = t then .ok true else sameItems (s.items r) (s.items t)
      | .dict r, .dict t =>
        if r = t then .ok true
        else if (s.entries r).length ≠ (s.entries t).length then .ok false
        else (s.entries r).allM fun (k, v) =>
          match findBy (equalTo s n) (s.entries t) k with
          | some w => sameBy (equalTo s n) v w
          | none => .ok false
      | .view m k₁ r, .view o k₂ t =>
        if k₁ = .values ∨ k₂ = .values then .ok (m == o)
        else if (s.entries r).length ≠ (s.entries t).length then .ok false
        else viewWithin (equalTo s n) k₁ (s.entries r) k₂ (s.entries t)
      | .range a₁ b₁ c₁, .range a₂ b₂ c₂ =>
        let n₁ := Value.rangeLength a₁ b₁ c₁
        let n₂ := Value.rangeLength a₂ b₂ c₂
        .ok (n₁ == n₂ && (n₁ == 0 || (a₁ == a₂ && (n₁ == 1 || c₁ == c₂))))
      | a, b => .ok (a.identical b)

/-- Whether two values are equal. -/
def equal (s : Store) (a b : Value) : Except Fault Bool := s.equalTo maxValueDepth a b

/-- Whether two elements are identical or equal. -/
def same (s : Store) (a b : Value) : Except Fault Bool := sameBy s.equal a b

/-- The value that an entry with the key gives. -/
def lookup (s : Store) (entries : List (Value × Value)) (key : Value) :
    Except Fault (Option Value) := do
  checkKey key
  return findBy s.equal entries key

/-- The place of the entry with the key, and its value. -/
def entryAt? (s : Store) (d : Dictionary) (key : Value) : Except Fault (Option (Nat × Value)) := do
  match ← s.lookup d.entries key with
  | some v =>
    let hasKey : Option (Value × Value) → Bool
      | some (k, _) => (s.same k key).toOption.getD false
      | none => false
    return (d.places.findIdx? hasKey).map (·, v)
  | none => return none

/-- The dictionary with the value for a key changed, or with a new entry. -/
def insert (s : Store) (d : Dictionary) (key value : Value) : Except Fault Dictionary := do
  let d := d.readyFor key
  match ← s.entryAt? d key with
  | some (place, _) => return d.setAt place value
  | none => return d.add key value

/-! ## Order -/

/-- The order of two values, followed down to a depth; nothing if one is not a number, which beside
a decimal number is a fault. The symbol is that of the comparison asked for. -/
def order? (s : Store) (symbol : String) : (depth : Nat) → Value → Value →
    Except Fault (Option Ordering)
  | 0, _, _ => .error .depth
  | n + 1, a, b =>
    let unsupported : Except Fault (Option Ordering) := .error (.type
      ("'" ++ symbol ++ "' not supported between instances of '" ++ a.typePath ++ "' and '" ++
        b.typePath ++ "'"))
    let rec items : List Value → List Value → Except Fault (Option Ordering)
      | [], [] => .ok (some .eq)
      | [], _ :: _ => .ok (some .lt)
      | _ :: _, [] => .ok (some .gt)
      | x :: xs, y :: ys => do
        if ← s.same x y then items xs ys else order? s symbol n x y
    match a.magnitude?, b.magnitude? with
    | some x, some y =>
      match a, b, x.order y with
      | .decimal _ _, _, none | _, .decimal _ _, none => .error (.decimal .invalid)
      | _, _, o => .ok o
    | some _, none | none, some _ => unsupported
    | none, none =>
      match a.text?, b.text? with
      | some x, some y => .ok (some (compare x y))
      | some _, none | none, some _ => unsupported
      | none, none =>
        match a, b with
        | .bytes x, .bytes y => .ok (some (compare x y))
        | .tuple xs, .tuple ys => items xs ys
        | .list r, .list t => items (s.items r) (s.items t)
        | .date x, .date y => .ok (some (x.order y))
        | .datetime x t, .datetime y u => .ok (some ((x.order y).then (t.order u)))
        | .time x, .time y => .ok (some (x.order y))
        | .duration x, .duration y => .ok (some (compare x.microseconds y.microseconds))
        | .date _, .datetime _ _ | .datetime _ _, .date _ =>
          .error (.type "can't compare datetime.datetime to datetime.date")
        | _, _ => unsupported

/-- Whether one value comes before another. -/
def before (s : Store) (a b : Value) : Except Fault Bool := do
  return (← s.order? "<" maxValueDepth a b) == some .lt

/-- Whether one value comes after another. -/
def after (s : Store) (a b : Value) : Except Fault Bool := do
  return (← s.order? ">" maxValueDepth a b) == some .gt

end Store
end Stencil
