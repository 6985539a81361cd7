import Stencil.Evaluation.Scope

/-!
# Evaluation

The value of an expression in a scope (`eval`), the elements that iterators give (`next`,
`elements`), and calls. All go down a fuel count together, for loops may be long and may never end.

Some of the language is read but not followed, and ends in a fault instead of its value: sets, the
formats of fields, the operators on bits, what lambdas yield, what generators wait for, and calls of
the functions and types that blocks are not made for (`otherFunctions`, `otherTypes`). This is a
boundary of the model, where the language itself goes on.
-/

namespace Stencil

open Stencil.Expr (Expr Constant CollectKind Target ArgumentKind)

/-- The steps that an evaluation may take. -/
def evaluationFuel : Nat := 1000000

/-- The value of a constant. -/
def constantValue : Constant → Run Fault Value
  | .none => return .none
  | .ellipsis => return .ellipsis
  | .bool b => return .bool b
  | .int i => return .int i
  | .float x => return .float x 0
  | .imaginary x => return .complex ⟨0.0, x⟩
  | .text s => return .text s
  | .bytes s => return .bytes s

/-- A value as it is put into a format string. -/
def fieldText (conversion : Option Char) (v : Value) : Run Fault Text := do
  let s ← get
  match conversion with
  | some 'r' => Run.ofExcept (s.quoted v)
  | some 'a' => return Printf.escapeWide (← Run.ofExcept (s.quoted v))
  | _ => Run.ofExcept (s.text v)

/-- The type of a generator that waits. -/
def suspendedType : String := "async_generator"

/-- A generator that waits, of which the first clause has the given target and ranges over a value.
Nothing here can go through it. -/
def suspendedGenerator (target : Target) (v : Value) : Run Fault Value := do
  if target.isAwaited then
    if v.typeName ≠ suspendedType then
      throw (.type ("'async for' requires an object with __aiter__ method, got " ++ v.typePath))
  else
    let _ ← iterate v
  return .object (← Run.mark) suspendedType "<async_generator>".toList false

/-- The place of the argument that a target for the remaining elements stands at. -/
def restIndex? (targets : List Target) : Option Nat :=
  targets.findIdx? fun
    | .rest _ => true
    | _ => false

mutual

/-- The value of an expression. -/
def eval : (fuel : Nat) → Scope → Expr → Run Fault Value
  | 0, _, _ => throw .depth
  | n + 1, scope, e =>
    match e with
    | .constant c => constantValue c
    | .name x => lookupName scope x
    | .format parts => do
      let texts ← parts.mapM (eval n scope)
      return .text (texts.flatMap fun v => v.text?.getD [])
    | .field value conversion spec => do
      let text ← fieldText conversion (← eval n scope value)
      if spec.isEmpty then return .text text
      else throw (.type "unsupported format string")
    | .tuple items => return .tuple (← evalItems n scope items)
    | .list items => do Run.newList (← evalItems n scope items)
    | .set items => do
      let _ ← evalItems n scope items
      throw (.type "sets are not supported")
    | .dict entries => do
      let r ← Run.newDict []
      let pending ← entries.foldlM
        (fun pending (key, value) => do
          match key with
          | some key => do
            let k ← eval n scope key
            return pending ++ [(k, ← eval n scope value)]
          | none => do
            putEntries r pending
            match ← eval n scope value with
            | .dict d => putAll r d
            | v => putEntries r (← mappingEntries v)
            return [])
        []
      putEntries r pending
      return .dict r
    | .starred _ => throw (.type "cannot use starred expression here")
    | .await _ => throw (.type "what a generator waits for cannot be used")
    | .unary op e => do unaryValue op (← eval n scope e)
    | .binary op left right => do
      let a ← eval n scope left
      let b ← eval n scope right
      binaryValue op a b
    | .and left right => do
      let a ← eval n scope left
      if (← get).truth a then eval n scope right else return a
    | .or left right => do
      let a ← eval n scope left
      if (← get).truth a then return a else eval n scope right
    | .compare first rest => do evalComparisons n scope (← eval n scope first) rest
    | .conditional test yes no => do
      let t ← eval n scope test
      if (← get).truth t then eval n scope yes else eval n scope no
    | .assign x value => do
      let v ← eval n scope value
      assignName scope x v
      return v
    | .lambda parameters body => do
      let parameters ← parameters.mapM fun (kind, x, default) => do
        match default with
        | some e => return (kind, x, some (← eval n scope e))
        | none => return (kind, x, none)
      return .closure parameters body scope
    | .yield _ _ => throw (.type "what a lambda yields cannot be used")
    | .attribute e name => do memberOf (← eval n scope e) name
    | .subscript e index => do
      let v ← eval n scope e
      subscript v (← eval n scope index)
    | .slice start stop step => do
      let bound (e : Option Expr) : Run Fault Value := match e with
        | some e => eval n scope e
        | none => return .none
      return .slice (← bound start) (← bound stop) (← bound step)
    | .call function arguments => do
      let f ← eval n scope function
      call n f (← evalArguments n scope ⟨[], []⟩ arguments)
    | .comprehension kind element clauses => do
      match clauses with
      | [] => throw (.type "a comprehension needs a clause")
      | (target, source, _) :: _ => do
        let v ← eval n scope source
        if kind = .generator ∧ Expr.suspends n element clauses then
          return ← suspendedGenerator target v
        let first ← iterate v
        let inner ← scope.enter (clauses.flatMap fun (target, _, _) => target.names)
        let body : GeneratorBody := ⟨element, clauses, inner⟩
        match kind with
        | .generator => return .generator (← Run.newIterator (.generator body [first]))
        | .list => do Run.newList ((← collect n body [first]).map (·.1))
        | .set => throw (.type "sets are not supported")
        | .dict => do
          let r ← Run.newDict []
          fill n r body [first]
          return .dict r

/-- The values of the items of a display, those of starred items one by one. -/
def evalItems : (fuel : Nat) → Scope → List Expr → Run Fault (List Value)
  | 0, _, _ => throw .depth
  | _ + 1, _, [] => return []
  | n + 1, scope, .starred e :: rest => do
    let v ← eval n scope e
    if !(← get).isIterable v then
      throw (.type ("Value after * must be an iterable, not " ++ v.typePath))
    let items ← elements n v
    return items ++ (← evalItems n scope rest)
  | n + 1, scope, e :: rest => do
    let v ← eval n scope e
    return v :: (← evalItems n scope rest)

/-- A chain of comparisons that starts with a value; it ends at the first that is false. -/
def evalComparisons : (fuel : Nat) → Scope → Value → List (Expr.CompareOp × Expr) →
    Run Fault Value
  | 0, _, _, _ => throw .depth
  | _ + 1, _, _, [] => return .bool true
  | n + 1, scope, a, (op, e) :: rest => do
    let b ← eval n scope e
    let holds ← match op with
      | .isIn => holdsElement n b a
      | .notIn => do pure !(← holdsElement n b a)
      | op => compareValues op a b
    if holds then
      if rest.isEmpty then return .bool true else evalComparisons n scope b rest
    else return .bool false

/-- Whether a value has an element. -/
def holdsElement : (fuel : Nat) → (container element : Value) → Run Fault Bool
  | 0, _, _ => throw .depth
  | n + 1, container, element => do
    match container with
    | .iterator _ | .generator _ | .frame _ => search n (← iterate container) element
    | container => contains container element

/-- Whether an iterator gives an element. It is not followed any farther. -/
def search : (fuel : Nat) → Ref → (element : Value) → Run Fault Bool
  | 0, _, _ => throw .depth
  | n + 1, it, element => do
    match ← next n it with
    | none => return false
    | some v =>
      if ← Run.ofExcept ((← get).same v element) then return true else search n it element

/-- The values of the arguments of a call, after the given ones. -/
def evalArguments : (fuel : Nat) → Scope → Arguments → List (ArgumentKind × Expr) →
    Run Fault Arguments
  | 0, _, _, _ => throw .depth
  | _ + 1, _, done, [] => return done
  | n + 1, scope, done, (kind, e) :: rest => do
    let v ← eval n scope e
    let done ← match kind with
      | .positional => pure { done with positional := done.positional ++ [v] }
      | .unpacked => do
        pure { done with positional := done.positional ++ (← elements n v) }
      | .named x => pure { done with named := done.named ++ [(x, v)] }
      | .unpackedNamed => do
        let entries ← mappingEntries v
        let named ← entries.mapM fun (k, v) =>
          match k.text? with
          | some x => pure (x, v)
          | none => throw (Fault.type "keywords must be strings")
        pure { done with named := done.named ++ named }
    evalArguments n scope done rest

/-- The entries of a dictionary. -/
def mappingEntries (v : Value) : Run Fault (List (Value × Value)) := do
  match v with
  | .dict r => return (← get).entries r
  | .frame r => return (← get).entries r
  | v => throw (.type ("'" ++ v.typePath ++ "' object is not a mapping"))

/-- Makes a target stand for a value, or those in it for its elements. -/
def assign : (fuel : Nat) → Scope → Target → Value → Run Fault Unit
  | 0, _, _, _ => throw .depth
  | _ + 1, scope, .name x, v => assignName scope x v
  | n + 1, scope, .attribute e name, _ => do setMember (← eval n scope e) name
  | n + 1, scope, .subscript e index, v => do
    let container ← eval n scope e
    let i ← eval n scope index
    match container, i with
    | .list r, .slice start stop step => do
      if !(← get).isIterable v then
        throw (.type (if step matches .none then "can only assign an iterable"
          else "must assign iterable to extended slice"))
      setSlice r start stop step (← elements n v)
    | container, i => setElement container i v
  | n + 1, scope, .rest t, v => assign n scope t v
  | _ + 1, _, .awaited _, _ => throw (.type "what a generator waits for cannot be used")
  | n + 1, scope, .sequence targets, v => do
    if !(← get).isIterable v then
      throw (.type ("cannot unpack non-iterable " ++ v.typePath ++ " object"))
    let it ← iterate v
    match restIndex? targets with
    | none => do
      let items ← firstOf n it targets.length
      if items.length < targets.length then
        throw (.value
          s!"not enough values to unpack (expected {targets.length}, got {items.length})")
      else if (← next n it).isSome then
        throw (.value s!"too many values to unpack (expected {targets.length})")
      else (targets.zip items).forM fun (t, v) => assign n scope t v
    | some k =>
      let items ← drain n it
      let after := targets.length - 1 - k
      if items.length + 1 < targets.length then
        throw (.value
          s!"not enough values to unpack (expected at least {k + after}, got {items.length})")
      else do
        let middle ← Run.newList ((items.take (items.length - after)).drop k)
        let items := items.take k ++ middle :: items.drop (items.length - after)
        (targets.zip items).forM fun (t, v) => assign n scope t v

/-- The elements that an iterator gives next, up to a number. -/
def firstOf : (fuel : Nat) → Ref → (count : Nat) → Run Fault (List Value)
  | 0, _, _ => throw .depth
  | _ + 1, _, 0 => return []
  | n + 1, it, count + 1 => do
    match ← next n it with
    | none => return []
    | some v => return v :: (← firstOf n it count)

/-- Puts what a comprehension gives into a dictionary, entry by entry. -/
def fill : (fuel : Nat) → Ref → GeneratorBody → List Ref → Run Fault Unit
  | 0, _, _, _ => throw .depth
  | n + 1, r, body, active => do
    match ← resume n body active with
    | (some entry, active) => do
      putEntries r [entry]
      fill n r body active
    | (none, _) => return ()

/-- What a comprehension gives, one element after the other; in a dictionary each has a key. -/
def collect : (fuel : Nat) → GeneratorBody → List Ref → Run Fault (List (Value × Value))
  | 0, _, _ => throw .depth
  | n + 1, body, active => do
    match ← resume n body active with
    | (some x, active) => return x :: (← collect n body active)
    | (none, _) => return []

/-- The next element of a comprehension, and the iterators in progress after it. -/
def resume : (fuel : Nat) → GeneratorBody → List Ref →
    Run Fault (Option (Value × Value) × List Ref)
  | 0, _, _ => throw .depth
  | _ + 1, _, [] => return (none, [])
  | n + 1, body, it :: outer => do
    match ← next n it with
    | none => resume n body outer
    | some v =>
      match body.clauses[outer.length]? with
      | none => return (none, [])
      | some (target, _, conditions) => do
        assign n body.scope target v
        if ← evalConditions n body.scope conditions then
          match body.clauses[outer.length + 1]? with
          | some (_, source, _) => do
            let inner ← iterate (← eval n body.scope source)
            resume n body (inner :: it :: outer)
          | none => do
            let k ← eval n body.scope body.element.1
            let v ← match body.element.2 with
              | some e => eval n body.scope e
              | none => pure .none
            return (some (k, v), it :: outer)
        else resume n body (it :: outer)

/-- Whether all conditions are true; those after one that is false are left alone. -/
def evalConditions : (fuel : Nat) → Scope → List Expr → Run Fault Bool
  | 0, _, _ => throw .depth
  | _ + 1, _, [] => return true
  | n + 1, scope, e :: rest => do
    let v ← eval n scope e
    if (← get).truth v then evalConditions n scope rest else return false

/-- The next element of an iterator. One that has come to its end, or has failed, gives no more. -/
def next : (fuel : Nat) → Ref → Run Fault (Option Value)
  | 0, _ => throw .depth
  | n + 1, r => do
    let s ← get
    let finish : Run Fault (Option Value) := do
      Run.replace r (.iterator (.values []))
      return none
    match s.cells[r]? with
    | some (.iterator (.values (v :: rest))) => do
      Run.replace r (.iterator (.values rest))
      return some v
    | some (.iterator (.items list i)) =>
      match (s.items list)[i]? with
      | some v => do
        Run.replace r (.iterator (.items list (i + 1)))
        return some v
      | none => finish
    | some (.iterator (.entries dict kind i size given)) =>
      let d := s.dictionary dict
      if d.size ≠ size then
        throw (.failure "dictionary changed size during iteration".toList)
      else
        match d.entryFrom? i with
        | some ((k, v), next) => do
          if given = size then
            let _ ← finish
            throw (.failure "dictionary keys changed during iteration".toList)
          Run.replace r (.iterator (.entries dict kind next size (given + 1)))
          return some (match kind with
            | .keys => k
            | .values => v
            | .items => .tuple [k, v])
        | none => finish
    | some (.iterator (.columns frame i)) => do
      match ← Run.ofExcept (s.lookup (s.entries frame) (.int i)) with
      | some v => do
        Run.replace r (.iterator (.columns frame (i + 1)))
        return some v
      | none => throw (.key (Number.natText 10 i))
    | some (.iterator (.range at_ stop step)) =>
      if (step > 0 ∧ at_ < stop) ∨ (step < 0 ∧ at_ > stop) then do
        Run.replace r (.iterator (.range (at_ + step) stop step))
        return some (.int at_)
      else finish
    | some (.iterator (.generator body active)) => do
      Run.replace r (.iterator .busy)
      let (x, active) ← tryCatch (resume n body active) fun fault => do
        let _ ← finish
        throw fault
      match x with
      | some (v, _) => do
        Run.replace r (.iterator (.generator body active))
        return some v
      | none => finish
    | some (.iterator .busy) => throw (.value "generator already executing")
    | _ => return none

/-- All that an iterator still gives. -/
def drain : (fuel : Nat) → Ref → Run Fault (List Value)
  | 0, _ => throw .depth
  | n + 1, r => do
    match (← get).cells[r]? with
    | some (.iterator (.values rest)) => do
      Run.replace r (.iterator (.values []))
      return rest
    | _ =>
      match ← next n r with
      | some v => return v :: (← drain n r)
      | none => return []

/-- The elements of a value. -/
def elements : (fuel : Nat) → Value → Run Fault (List Value)
  | 0, _ => throw .depth
  | n + 1, v => do
    checkLength v
    match (← get).elements? v, v with
    | some items, _ => return items
    | none, .iterator r | none, .generator r => drain n r
    | none, .frame r => do drain n (← iterate (.frame r))
    | none, v => throw (.type ("'" ++ v.typePath ++ "' object is not iterable"))

/-- Values with their keys: what a function makes of them, or themselves without one. -/
def withKeys : (fuel : Nat) → (key : Value) → List Value → Run Fault (List (Value × Value))
  | 0, _, _ => throw .depth
  | n + 1, key, items =>
    match key with
    | .none => return items.map fun v => (v, v)
    | key => items.mapM fun v => do return (← call n key ⟨[v], []⟩, v)

/-- The least or greatest of the arguments, or of the elements of the only one. -/
def extreme : (fuel : Nat) → (greatest : Bool) → Arguments → Run Fault Value
  | 0, _, _ => throw .depth
  | n + 1, greatest, a => do
    let name := if greatest then "max" else "min"
    if !a.onlyNamed ["key", "default"] then wrongArguments name
    let key := (a.named.lookup "key".toList).getD .none
    let default := a.named.lookup "default".toList
    let it ← match a.positional with
      | [] => wrongArguments name
      | [v] => iterate v
      | items => if default.isSome then wrongArguments name else Run.newIterator (.values items)
    match ← extremeFrom n greatest key it none, default with
    | some v, _ => return v
    | none, some v => return v
    | none, none => throw (.value (name ++ "() arg is an empty sequence"))

/-- The element of an iterator whose key is least, or greatest, the first of several; another one
with its key is to be beaten. -/
def extremeFrom : (fuel : Nat) → (greatest : Bool) → (key : Value) → Ref →
    (best : Option (Value × Value)) → Run Fault (Option Value)
  | 0, _, _, _, _ => throw .depth
  | n + 1, greatest, key, it, best => do
    match ← next n it with
    | none => return best.map (·.2)
    | some v => do
      let k ← match key with
        | .none => pure v
        | key => call n key ⟨[v], []⟩
      extremeFrom n greatest key it (if ← isBetter greatest best k then some (k, v) else best)

/-- The sum of a value and the elements of an iterator. -/
def sumFrom : (fuel : Nat) → (total : Value) → Ref → Run Fault Value
  | 0, _, _ => throw .depth
  | n + 1, total, it => do
    match ← next n it with
    | none => return total
    | some v => sumFrom n (← binaryValue .add total v) it

/-- The sum of a start and the elements of a value. -/
def sumOf : (fuel : Nat) → (start v : Value) → Run Fault Value
  | 0, _, _ => throw .depth
  | n + 1, start, v => do
    let it ← iterate v
    checkSumStart start
    sumFrom n start it

/-- Puts the pairs that an iterator gives into a dictionary, one after the other; so many came
before. -/
def updateFrom : (fuel : Nat) → (dict it : Ref) → (count : Nat) → Run Fault Unit
  | 0, _, _, _ => throw .depth
  | n + 1, dict, it, count => do
    match ← next n it with
    | none => return ()
    | some item => do
      if !(← get).isIterable item then
        throw (.type
          s!"cannot convert dictionary update sequence element #{count} to a sequence")
      match ← elements n item with
      | [k, v] => putEntries dict [(k, v)]
      | parts => throw (.value (s!"dictionary update sequence element #{count} has length " ++
          s!"{parts.length}; 2 is required"))
      updateFrom n dict it (count + 1)

/-- A conversion to a type. -/
def convertTo : (fuel : Nat) → ValueType → Arguments → Run Fault Value
  | 0, _, _ => throw .depth
  | n + 1, t, a => do
    let s ← get
    match t, a.positional, a.named with
    | .bool, [], [] => return .bool false
    | .bool, [v], [] => return .bool (s.truth v)
    | .int, [], [] => return .int 0
    | .int, [v], [] => convertToInt v
    | .int, [v, base], [] => convertToIntIn base v
    | .int, [v], [(x, base)] =>
      if x = "base".toList then convertToIntIn base v else wrongArguments "int"
    | .float, [], [] => return .float 0.0 0
    | .float, [v], [] => convertToFloat v
    | .text, [], [] => return .text []
    | .text, [v], [] => return .text (← Run.ofExcept (s.text v))
    | .list, [], [] => Run.newList []
    | .list, [v], [] => do Run.newList (← elements n v)
    | .range, bounds, [] => rangeOf bounds
    | .type, [v], [] => return .type v.typeOf
    | t, _, _ => wrongArguments t.name

/-- A call of a function that is built in. -/
def callFunction : (fuel : Nat) → Function → Arguments → Run Fault Value
  | 0, _, _ => throw .depth
  | n + 1, f, a => do
    match f, a.positional, a.named with
    | .length, [v], [] => lengthOf v
    | .quoted, [v], [] => return .text (← Run.ofExcept ((← get).quoted v))
    | .sum, [v], [] => sumOf n (.int 0) v
    | .sum, [v, start], [] => sumOf n start v
    | .sum, [v], [(x, start)] =>
      if x = "start".toList then sumOf n start v else wrongArguments "sum"
    | .minimum, _, _ => extreme n false a
    | .maximum, _, _ => extreme n true a
    | .sorted, [v], named => do
      if !a.onlyNamed ["key", "reverse"] then wrongArguments "sorted"
      let key := (named.lookup "key".toList).getD .none
      let items ← elements n v
      let reverse ← flagOf ((named.lookup "reverse".toList).getD (.bool false))
      Run.newList (← sortByKeys reverse (← withKeys n key items))
    | .absolute, [v], [] => absoluteOf v
    | .ofMethod owner m, self :: positional, named =>
      if self.isOf owner then callMethod n self m ⟨positional, named⟩
      else throw (.type ("descriptor '" ++ m.name ++ "' for '" ++ owner.name ++
          "' objects doesn't apply to a '" ++ self.typePath ++ "' object"))
    | .ofMethod owner m, [], _ =>
      throw (.type ("unbound method " ++ owner.name ++ "." ++ m.name ++ "() needs an argument"))
    | .bracket, [v], [] =>
      match v.text? with
      | some s => return .text ('[' :: s ++ [']'])
      | none => throw (.type ("can only concatenate str (not \"" ++ v.typePath ++ "\") to str"))
    | .boom, _, _ => throw (.value "boom")
    | .counter r, [], [] => do
      match (← get).cells[r]? with
      | some (.counter calls) => do
        Run.replace r (.counter (calls + 1))
        return .int (calls + 1)
      | _ => throw (.type "not a counter")
    | .quit _, [], [] | .quit _, [_], [] => throw .exit
    | .quit name, [], [(x, _)] =>
      if x = "code".toList then throw .exit else wrongArguments (Function.quit name).name
    | f, _, _ => wrongArguments f.name

/-- A call of a method. Those of lists and dictionaries take what the value refers to. -/
def callMethod : (fuel : Nat) → Value → Method → Arguments → Run Fault Value
  | 0, _, _, _ => throw .depth
  | n + 1, self, m, a => do
    let t := self.text?.getD []
    match m, self.place?, a.positional, a.named with
    | .upper, _, [], [] => return .text (Text.upper t)
    | .lower, _, [], [] => return .text (Text.lower t)
    | .strip, _, [], [] => stripText t .none
    | .strip, _, [cs], [] => stripText t cs
    | .split, _, positional, named =>
      if positional.length ≤ 2 then
        splitText t
          ((positional[0]? <|> named.lookup "sep".toList).getD .none)
          ((positional[1]? <|> named.lookup "maxsplit".toList).getD (.int (-1)))
      else wrongArguments "split"
    | .join, _, [v], [] => do
      if !(← get).isIterable v then throw (.type "can only join an iterable")
      joinTexts t (← elements n v)
    | .replace, _, [old, new], [] => replaceText t old new (.int (-1))
    | .replace, _, [old, new, count], [] => replaceText t old new count
    | .startsWith, _, [start], [] => startsWithText t start .none .none
    | .startsWith, _, [start, low], [] => startsWithText t start low .none
    | .startsWith, _, [start, low, high], [] => startsWithText t start low high
    | .append, some r, [v], [] => do
      Run.replace r (.list ((← get).items r ++ [v]))
      return .none
    | .listPop, some r, [], [] => popItem r (.int (-1))
    | .listPop, some r, [i], [] => popItem r i
    | .get, some r, [k], [] => do
      let s ← get
      return (← Run.ofExcept (s.lookup (s.entries r) k)).getD .none
    | .get, some r, [k, v], [] => do
      let s ← get
      return (← Run.ofExcept (s.lookup (s.entries r) k)).getD v
    | .keys, some r, [], [] => return .view (← Run.mark) .keys r
    | .values, some r, [], [] => return .view (← Run.mark) .values r
    | .items, some r, [], [] => return .view (← Run.mark) .items r
    | .frameKeys, some r, [], [] => do Run.newList (((← get).entries r).map (·.1))
    | .update, some r, positional, named => do
      match positional with
      | [] => pure ()
      | [.dict d] => putAll r d
      | [.frame d] => do putEntries r ((← get).entries d)
      | [v] => do updateFrom n r (← iterate v) 0
      | _ => wrongArguments "update"
      putAll r (← Run.newDict (named.map fun (k, v) => (.text k, v)))
      return .none
    | .dictPop, some r, [k], [] => popEntry r k none
    | .dictPop, some r, [k, v], [] => popEntry r k (some v)
    | m, _, _, _ => wrongArguments m.name

/-- A call of a value. -/
def call : (fuel : Nat) → Value → Arguments → Run Fault Value
  | 0, _, _ => throw .depth
  | n + 1, f, a =>
    match f with
    | .type t => convertTo n t a
    | .function f => callFunction n f a
    | .method self m => callMethod n self m a
    | .closure parameters body scope => do
      let bound ← bindParameters parameters a
      let inner ← scope.enter (bound.map (·.1) ++ Expr.givenNames false n body)
      bound.forM fun (x, v) => assignName inner x v
      eval n inner body
    | v => throw (.type ("'" ++ v.typePath ++ "' object is not callable"))

end

end Stencil
