import Stencil.Evaluation.Index
import Stencil.Text.Case

/-!
# Operations on values

The functions and methods that expressions call, on arguments that are already there, and the
comparisons. What takes the elements of any iterable is given them as a list.
-/

namespace Stencil

/-! ## Arguments -/

/-- The arguments of a call: those by position, and those by name. -/
structure Arguments where
  positional : List Value
  named : List (Text × Value)

/-- Whether all arguments by name have one of the given names. -/
def Arguments.onlyNamed (a : Arguments) (names : List String) : Bool :=
  a.named.all fun (x, _) => names.contains (String.ofList x)

/-- A call that a function does not take. -/
def wrongArguments {α : Type} (name : String) : Run Fault α :=
  throw (.type (name ++ "() got unexpected arguments"))

/-- The elements of a value that holds them all at once. -/
def Store.elements? (s : Store) : Value → Option (List Value)
  | .text t | .fragment t => some (t.map fun c => .text [c])
  | .bytes b => some (b.map fun n => .int n.toNat)
  | .tuple items => some items
  | .list r => some (s.items r)
  | .dict r => some ((s.entries r).map (·.1))
  | .view _ kind r => some (viewItems kind (s.entries r))
  | .range start stop step => some ((rangeItems start stop step).map .int)
  | _ => none

/-- Whether a value has elements. Those of a frame are its columns under the numbers from zero
on. -/
def Store.isIterable (s : Store) : Value → Bool
  | .iterator _ | .generator _ | .frame _ => true
  | v => (s.elements? v).isSome

/-- The iterator over a value. -/
def iterate (v : Value) : Run Fault Ref :=
  match v with
  | .iterator r | .generator r => return r
  | .list r => Run.newIterator (.items r 0)
  | .dict r => do Run.newIterator (.entries r .keys 0 ((← get).dictionary r).size 0)
  | .view _ kind r => do Run.newIterator (.entries r kind 0 ((← get).dictionary r).size 0)
  | .frame r => Run.newIterator (.columns r 0)
  | .range start stop step => Run.newIterator (.range start stop step)
  | v => do
    match (← get).elements? v with
    | some items => Run.newIterator (.values items)
    | none => throw (.type ("'" ++ v.typePath ++ "' object is not iterable"))

/-! ## Functions -/

/-- A range must not have more elements than a length can count. -/
def checkLength (v : Value) : Run Fault Unit :=
  match v with
  | .range start stop step =>
    if Value.rangeLength start stop step < Number.twos 63 then return ()
    else throw (.overflow "Python int too large to convert to C ssize_t")
  | _ => return ()

/-- How many elements a value has. -/
def lengthOf (v : Value) : Run Fault Value := do
  checkLength v
  match v with
  | .range start stop step => return .int (Value.rangeLength start stop step)
  | .object _ _ _ true => return .int 0
  | v =>
    match (← get).elements? v with
    | some items => return .int items.length
    | none => throw (.type ("object of type '" ++ v.typePath ++ "' has no len()"))

/-- Texts and bytes are nothing to start a sum with. -/
def checkSumStart : Value → Run Fault Unit
  | .text _ | .fragment _ => throw (.type "sum() can't sum strings [use ''.join(seq) instead]")
  | .bytes _ => throw (.type "sum() can't sum bytes [use b''.join(seq) instead]")
  | _ => return ()

/-! ### Sorting

The order in which keys are compared shows where they have no order among each other: first a run of
keys that rise, or fall, is taken from the front; then each further key is put in its place, which
is sought by halves.
-/

/-- The run at the front, the last entry first, and what follows it. -/
def Store.frontRun (s : Store) (falling : Bool) (last : Value × Value)
    (run : List (Value × Value)) :
    List (Value × Value) → Except Fault (List (Value × Value) × List (Value × Value))
  | [] => .ok (run, [])
  | e :: rest => do
    if (← s.before e.1 last.1) = falling then s.frontRun falling e (e :: run) rest
    else .ok (run, e :: rest)

/-- The place of a key among sorted entries from `low` up to `high`, after all that it does not come
before. -/
def Store.placeOf (s : Store) (sorted : Array (Value × Value)) (key : Value) (low high : Nat) :
    Except Fault Nat :=
  let middle := low + (high - low) / 2
  match sorted[middle]? with
  | some e =>
    if _h : low < high then do
      if ← s.before key e.1 then s.placeOf sorted key low middle
      else s.placeOf sorted key (middle + 1) high
    else .ok low
  | none => .ok low
termination_by high - low

/-- Entries in the order of their keys; those with equal keys keep their order. -/
def Store.sortEntries (s : Store) (entries : List (Value × Value)) :
    Except Fault (List (Value × Value)) :=
  match entries with
  | first :: second :: rest => do
    let falling ← s.before second.1 first.1
    let (run, rest) ← s.frontRun falling second [second, first] rest
    let start := (if falling then run else run.reverse).toArray
    let sorted ← rest.foldlM
      (fun done e => do
        return done.insertIdxIfInBounds (← s.placeOf done e.1 0 done.size) e)
      start
    return sorted.toList
  | entries => .ok entries

/-- Values in the order of their keys; equal keys keep their order, also when it is reversed. -/
def sortByKeys (reverse : Bool) (entries : List (Value × Value)) : Run Fault (List Value) := do
  let entries := if reverse then entries.reverse else entries
  let sorted ← Run.ofExcept ((← get).sortEntries entries)
  return (if reverse then sorted.reverse else sorted).map (·.2)

/-- A truth value given as an integer of 32 bits. -/
def flagOf (v : Value) : Run Fault Bool :=
  match v.int? with
  | some i =>
    if -(Number.twos 31) ≤ i ∧ i < Number.twos 31 then return i ≠ 0
    else throw (.overflow "Python int too large to convert to C int")
  | none => throw (.type ("'" ++ v.typePath ++ "' object cannot be interpreted as an integer"))

/-- Whether a key is less, or greater, than the best one so far, if there is one. -/
def isBetter (greatest : Bool) (best : Option (Value × Value)) (key : Value) : Run Fault Bool := do
  let s ← get
  match best with
  | none => return true
  | some (b, _) => Run.ofExcept (if greatest then s.after key b else s.before key b)

/-- The magnitude of a number. -/
def absoluteOf (v : Value) : Run Fault Value :=
  match v with
  | .float x _ => Run.marked (.float (if isNegativeFloat x then -x else x) 0)
  | .complex z => return .float z.abs 0
  | .decimal d _ => do Run.marked (← Run.ofExcept (decimalResult d.abs))
  | .duration d => Run.ofExcept (durationResult d.microseconds.natAbs)
  | v =>
    match v.int? with
    | some i => return .int i.natAbs
    | none => throw (.type ("bad operand type for abs(): '" ++ v.typePath ++ "'"))

/-- The range with the given bounds. -/
def rangeOf (arguments : List Value) : Run Fault Value := do
  let bounds ← arguments.mapM fun v =>
    match v.int? with
    | some i => pure i
    | none => throw (Fault.type ("'" ++ v.typePath ++
      "' object cannot be interpreted as an integer"))
  match bounds with
  | [stop] => return .range 0 stop 1
  | [start, stop] => return .range start stop 1
  | [start, stop, step] =>
    if step = 0 then throw (.value "range() arg 3 must not be zero")
    else return .range start stop step
  | _ => wrongArguments "range"

/-- The text in which a value may spell a number. In bytes, only ASCII characters count; others are
shown as a mark that no number has. -/
def spelledNumber? : Value → Option Text
  | .bytes b => some (b.map fun n => if n.toNat < 128 then Char.ofNat n.toNat else '?')
  | v => v.text?

/-- A value as an integer, by the rules of a conversion. -/
def convertToInt (v : Value) : Run Fault Value := do
  match spelledNumber? v with
  | some s => return .int (← Run.ofExcept (intOfText s))
  | none =>
    return .int (← Run.ofExcept (v.toInt
      ("int() argument must be a string, a bytes-like object or a real number, not '" ++
        v.typePath ++ "'")))

/-- A text as an integer in the given base. -/
def convertToIntIn (base v : Value) : Run Fault Value := do
  match base.int?, spelledNumber? v with
  | none, _ =>
    throw (.type ("'" ++ base.typePath ++ "' object cannot be interpreted as an integer"))
  | some b, text =>
    if ¬(b = 0 ∨ 2 ≤ b ∧ b ≤ 36) then
      throw (.value "int() base must be >= 2 and <= 36, or 0")
    else
      match text with
      | some s => return .int (← Run.ofExcept (intOfTextIn b.toNat s))
      | none => throw (.type "int() can't convert non-string with explicit base")

/-- A value as a floating-point number, by the rules of a conversion. -/
def convertToFloat (v : Value) : Run Fault Value := do
  match v, spelledNumber? v with
  | .float x m, _ => return .float x m
  | _, some s => Run.marked (.float (← Run.ofExcept (floatOfText s)) 0)
  | _, none =>
    Run.marked (.float (← Run.ofExcept (v.toFloat
      ("float() argument must be a string or a real number, not '" ++ v.typePath ++ "'"))) 0)

/-- An argument that counts or places elements. -/
def positionOf (v : Value) : Run Fault Int :=
  match v.int? with
  | some i =>
    if fitsPosition i then return i
    else throw (.overflow "Python int too large to convert to C ssize_t")
  | none => throw (.type ("'" ++ v.typePath ++ "' object cannot be interpreted as an integer"))

/-! ## Methods of texts -/

/-- A text without the given characters at either end; white space by default. -/
def stripText (s : Text) (characters : Value) : Run Fault Value :=
  match characters, characters.text? with
  | .none, _ => return .text (Text.strip s)
  | _, some cs => return .text (Text.stripWhere cs.contains s)
  | _, none => throw (.type "strip arg must be None or str")

/-- The parts of a text between the first occurrences of a separator that is not empty. -/
def splitOn (sep : Text) : (count : Nat) → (current : Text) → Text → List Text
  | _, current, [] => [current.reverse]
  | 0, current, s => [current.reverse ++ s]
  | count + 1, current, c :: s =>
    match h : Text.after? sep (c :: s) with
    | some rest =>
      if _hs : sep ≠ [] then current.reverse :: splitOn sep count [] rest
      else [current.reverse ++ c :: s]
    | none => splitOn sep (count + 1) (c :: current) s
termination_by _ _ s => s.length
decreasing_by
  · exact Text.length_lt_of_after? _hs h
  · simp

/-- The first words of a text, and what is left after them without the white space in front. -/
def splitBlanks : (count : Nat) → (fuel : Nat) → Text → List Text
  | _, 0, _ => []
  | count, n + 1, s =>
    match s.dropWhile Text.isBlank with
    | [] => []
    | c :: rest =>
      match count with
      | 0 => [c :: rest]
      | count + 1 =>
        (c :: rest).takeWhile (!Text.isBlank ·) ::
          splitBlanks count n ((c :: rest).dropWhile (!Text.isBlank ·))

/-- A text split at a separator, or at white space, at most as often as a limit that is not negative
says. -/
def splitText (s : Text) (sep limit : Value) : Run Fault Value := do
  let limit ← positionOf limit
  let count := if limit < 0 then s.length + 1 else limit.toNat
  match sep, sep.text? with
  | .none, _ => Run.newList ((splitBlanks count (s.length + 1) s).map .text)
  | _, some [] => throw (.value "empty separator")
  | _, some sep => Run.newList ((splitOn sep count [] s).map .text)
  | _, none => throw (.type ("must be str or None, not " ++ sep.typePath))

/-- Texts joined by a separator. -/
def joinTexts (sep : Text) (items : List Value) : Run Fault Value := do
  let texts ← items.zipIdx.mapM fun (v, i) =>
    match v.text? with
    | some t => pure t
    | none => throw (Fault.type (s!"sequence item {i}: expected str instance, " ++ v.typePath ++
      " found"))
  return .text (Text.joinWith sep texts)

/-- The name of a value in messages about arguments: that of its type, but nothing is named
itself. -/
def argumentName : Value → String
  | .none => "None"
  | v => v.typePath

/-- A text with the first occurrences of another replaced. -/
def replaceText (s : Text) (old new count : Value) : Run Fault Value := do
  let refused (position : Nat) (v : Value) : Run Fault Value :=
    throw (.type (s!"replace() argument {position} must be str, not " ++ argumentName v))
  match old.text?, new.text? with
  | some old, some new =>
    let count ← positionOf count
    return .text (Text.replaceUpTo old new
      (if count < 0 then s.length + 1 else count.toNat) s)
  | none, _ => refused 1 old
  | some _, none => refused 2 new

/-- The part of a text between two positions, if the first is not beyond the second. Positions
outside the text are moved to its ends, the first only to the start. -/
def partBetween (s : Text) (low high : Value) : Except Fault (Option Text) := do
  let low ← sliceBound low 0
  let high ← sliceBound high s.length
  let fromEnd (i : Int) : Int := if i < 0 then max 0 (i + s.length) else i
  let first := fromEnd low
  let last := min (s.length : Int) (fromEnd high)
  return if first ≤ last then some ((s.take last.toNat).drop first.toNat) else none

/-- Whether a text, or a part of it, starts with another, or with one of several. -/
def startsWithText (s : Text) (start low high : Value) : Run Fault Value := do
  let startsAt (s : Option Text) (t : Text) : Bool :=
    match s with
    | some s => Text.startsWith t s
    | none => false
  let s ← Run.ofExcept (partBetween s low high)
  match start with
  | .tuple items =>
    return .bool (← items.anyM fun v =>
      match v.text? with
      | some t => pure (startsAt s t)
      | none =>
        throw (Fault.type ("tuple for startswith must only contain str, not " ++ v.typePath)))
  | start =>
    match start.text? with
    | some t => return .bool (startsAt s t)
    | none => throw (.type ("startswith first arg must be str or a tuple of str, not " ++
      start.typePath))

/-! ## Methods of lists and dictionaries -/

/-- Takes an element out of a list, by default the last. -/
def popItem (r : Ref) (index : Value) : Run Fault Value := do
  let items := (← get).items r
  let i ← positionOf index
  if items.isEmpty then throw (.index "pop from empty list")
  else
    match position? items.length i with
    | some k =>
      Run.replace r (.list (items.eraseIdx k))
      return items[k]?.getD .none
    | none => throw (.index "pop index out of range")

/-- Takes an entry out of a dictionary; without a default the key must be there. An empty dictionary
does not look at the key. -/
def popEntry (r : Ref) (key : Value) (default : Option Value) : Run Fault Value := do
  let s ← get
  let d := s.dictionary r
  match ← Run.ofExcept (if d.size = 0 then .ok none else s.entryAt? d key) with
  | some (place, v) =>
    Run.replace r (.dict (d.eraseAt place))
    return v
  | none =>
    match default with
    | some v => return v
    | none => throw (.key (← Run.ofExcept (s.quoted key)))

/-- Puts entries into a dictionary, one after the other. -/
def putEntries (r : Ref) (entries : List (Value × Value)) : Run Fault Unit :=
  entries.forM fun (k, v) => do
    let s ← get
    Run.replace r (.dict (← Run.ofExcept (s.insert (s.dictionary r) k v)))

/-- Puts the entries of one dictionary into another. -/
def putAll (r other : Ref) : Run Fault Unit := do
  let s ← get
  if r ≠ other then
    Run.replace r (.dict ((s.dictionary r).readyForAll (s.dictionary other)))
    putEntries r (s.entries other)

/-! ## Members -/

/-- The methods of texts. -/
def textMethods : List (String × Method) := [
  ("upper", .upper), ("lower", .lower), ("strip", .strip), ("split", .split), ("join", .join),
  ("replace", .replace), ("startswith", .startsWith)]

/-- The methods of lists. -/
def listMethods : List (String × Method) := [("append", .append), ("pop", .listPop)]

/-- The methods of dictionaries. -/
def dictMethods : List (String × Method) := [
  ("get", .get), ("keys", .keys), ("values", .values), ("items", .items), ("update", .update),
  ("pop", .dictPop)]

/-- The numbers that a date, a time or a range is made of, by name. -/
def namedNumbers : Value → List (String × Int)
  | .date d => ofDate d
  | .datetime d t => ofDate d ++ ofTime t
  | .time t => ofTime t
  | .duration d =>
    [("days", d.days), ("seconds", d.seconds), ("microseconds", d.rest.microsecond)]
  | .range start stop step => [("start", start), ("stop", stop), ("step", step)]
  | _ => []
where
  /-- The parts of a date. -/
  ofDate (d : Date) : List (String × Int) :=
    [("year", d.year), ("month", d.month), ("day", d.day)]
  /-- The parts of a time. -/
  ofTime (t : Time) : List (String × Int) :=
    [("hour", t.hour), ("minute", t.minute), ("second", t.second), ("microsecond", t.microsecond)]

/-- The member of a value with the given name. -/
def memberOf (v : Value) (name : Text) : Run Fault Value :=
  let spelled := String.ofList name
  let found : Option Value :=
    match v with
    | .text _ | .fragment _ => (textMethods.lookup spelled).map (.method v)
    | .list _ => (listMethods.lookup spelled).map (.method v)
    | .dict _ => (dictMethods.lookup spelled).map (.method v)
    | .failure text cause =>
      if spelled = "text" then some (.text text)
      else if spelled = "cause" then some (.fault cause)
      else none
    | .frame _ => if spelled = "keys" then some (.method v .frameKeys) else none
    | .type t =>
      if spelled = "__name__" then some (.text t.name.toList)
      else
        let methods := match t with
          | .text => textMethods
          | .list => listMethods
          | .other "dict" => dictMethods
          | _ => []
        (methods.lookup spelled).map fun m => .function (.ofMethod t m)
    | v => ((namedNumbers v).lookup spelled).map .int
  let owner := match v with
    | .type t => "type object '" ++ t.path ++ "'"
    | v => "'" ++ v.typePath ++ "' object"
  match found with
  | some m => return m
  | none => throw (.member (owner ++ " has no attribute '" ++ spelled ++ "'"))

/-- Gives a member of a value another value, which no value allows. -/
def setMember (v : Value) (name : Text) : Run Fault Unit := do
  let _ ← memberOf v name
  throw (.member ("'" ++ v.typePath ++ "' object attribute '" ++ String.ofList name ++
    "' is read-only"))

/-- Puts a value in the place of an element. -/
def setElement (container index v : Value) : Run Fault Unit := do
  let s ← get
  match container, index.int? with
  | .list r, some i =>
    match position? (s.items r).length i with
    | some k => Run.replace r (.list ((s.items r).set k v))
    | none => throw (.index "list assignment index out of range")
  | .list _, none =>
    throw (.type ("list indices must be integers or slices, not " ++ index.typePath))
  | .dict r, _ => putEntries r [(index, v)]
  | container, _ =>
    throw (.type ("'" ++ container.typePath ++ "' object does not support item assignment"))

/-- Puts values in the place of a slice of a list. If its step is not one, they have to be as
many. -/
def setSlice (r : Ref) (start stop step : Value) (items : List Value) : Run Fault Unit := do
  let old := (← get).items r
  let range ← Run.ofExcept (sliceRange old.length start stop step)
  if range.step = 1 then
    let first := range.start.toNat
    Run.replace r (.list (old.take first ++ items ++ old.drop (max first range.stop.toNat)))
  else
    let places := rangeItems range.start range.stop range.step
    if places.length = items.length then
      Run.replace r (.list ((places.zip items).foldl (fun l (i, v) => l.set i.toNat v) old))
    else throw (.value (s!"attempt to assign sequence of size {items.length} to extended slice " ++
      s!"of size {places.length}"))

/-! ## Comparisons -/

/-- Whether a number is one of a range. -/
def inRange (start stop step i : Int) : Bool :=
  (i - start) % step = 0 &&
    if step > 0 then start ≤ i && i < stop else stop < i && i ≤ start

/-- The integer that a number of any type is equal to. -/
def wholeNumber? (v : Value) : Option Int :=
  let magnitude := match v with
    | .complex z => if z.im == 0.0 then some (Magnitude.ofFloat z.re) else none
    | v => v.magnitude?
  match magnitude with
  | some (.finite n d) => if n % d = 0 then some (n / d) else none
  | _ => none

/-- Whether bytes occur anywhere in others. -/
def occursInBytes (p : List UInt8) : List UInt8 → Bool
  | [] => p.isEmpty
  | b :: s => p.isPrefixOf (b :: s) || occursInBytes p s

/-- Whether a value that is no iterator holds an element: a text another text, a dictionary a
key. -/
def contains (container element : Value) : Run Fault Bool := do
  let s ← get
  let anySame (items : List Value) : Run Fault Bool :=
    items.anyM fun x => Run.ofExcept (s.same x element)
  match container with
  | .text t | .fragment t =>
    match element.text? with
    | some p => return Text.occursIn p t
    | none => throw (.type ("'in <string>' requires string as left operand, not " ++
      element.typePath))
  | .dict r => return (← Run.ofExcept (s.lookup (s.entries r) element)).isSome
  | .view _ .values r => anySame (Store.viewItems .values (s.entries r))
  | .view _ kind r => Run.ofExcept (Store.viewHas s.equal kind (s.entries r) element)
  | .range start stop step =>
    match wholeNumber? element with
    | some i => return inRange start stop step i
    | none =>
      if element.isSignaling ∧ Value.rangeLength start stop step ≠ 0 then
        throw (.decimal .invalid)
      else return false
  | .bytes b =>
    match element, element.int? with
    | .bytes p, _ => return occursInBytes p b
    | _, some i =>
      if 0 ≤ i ∧ i < 256 then return b.contains (UInt8.ofNat i.toNat)
      else throw (.value "byte must be in range(0, 256)")
    | _, none => throw (.type ("a bytes-like object is required, not '" ++ element.typePath ++ "'"))
  | container =>
    match s.elements? container with
    | some items => anySame items
    | none => throw (.type ("argument of type '" ++ container.typePath ++ "' is not iterable"))

/-- A comparison of the keys or items of two dictionaries, each as a set, if both values are such
views and the comparison is one of order. -/
def compareViews? (s : Store) (op : Expr.CompareOp) (a b : Value) :
    Option (Except Fault Bool) :=
  match a, b with
  | .view _ k₁ r, .view _ k₂ t =>
    let e₁ := s.entries r
    let e₂ := s.entries t
    let within (k₁ : ViewKind) (e₁ : List (Value × Value)) (k₂ : ViewKind)
        (e₂ : List (Value × Value)) (strict : Bool) : Option (Except Fault Bool) :=
      some (if e₁.length + (if strict then 1 else 0) ≤ e₂.length then
        Store.viewWithin s.equal k₁ e₁ k₂ e₂ else .ok false)
    if k₁ = .values ∨ k₂ = .values then none
    else match op with
      | .lt => within k₁ e₁ k₂ e₂ true
      | .le => within k₁ e₁ k₂ e₂ false
      | .gt => within k₂ e₂ k₁ e₁ true
      | .ge => within k₂ e₂ k₁ e₁ false
      | _ => none
  | _, _ => none

/-- A comparison of two values. Whether a value is an element is asked of what is no iterator. -/
def compareValues (op : Expr.CompareOp) (a b : Value) : Run Fault Bool := do
  let s ← get
  let ordered (symbol : String) (p : Ordering → Bool) : Run Fault Bool := do
    match ← Run.ofExcept (s.order? symbol maxValueDepth a b) with
    | some o => return p o
    | none => return false
  match compareViews? s op a b with
  | some r => Run.ofExcept r
  | none =>
    match op with
    | .lt => ordered "<" (· == .lt)
    | .le => ordered "<=" (· != .gt)
    | .gt => ordered ">" (· == .gt)
    | .ge => ordered ">=" (· != .lt)
    | .eq => Run.ofExcept (s.equal a b)
    | .ne => return !(← Run.ofExcept (s.equal a b))
    | .is => return a.identical b
    | .isNot => return !a.identical b
    | .isIn => contains b a
    | .notIn => return !(← contains b a)

end Stencil
