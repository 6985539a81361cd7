import Stencil.Proofs.Moved.Scope
import Stencil.Evaluation.Eval

/-!
# Evaluation over moved values

An evaluation takes on moved values, in a store where all has moved, the course that it takes on the
values themselves (`evalFollows`). Its functions go down a fuel count together, so this is an
induction on the fuel with a lemma for each function.
-/

namespace Stencil

open Run (Follows)
open Stencil.Expr (Expr)

variable {g : Gap} {n : Nat}

/-- Each function of an evaluation with that much fuel takes the same course on moved values. -/
structure EvalFollows (g : Gap) (n : Nat) : Prop where
  eval (scope : Scope) (e : Expr) :
    Follows g (Value.moved g) (eval n scope e) (eval n (scope.moved g) e)
  evalItems (scope : Scope) (items : List Expr) :
    Follows g (List.map (Value.moved g)) (evalItems n scope items)
      (evalItems n (scope.moved g) items)
  evalComparisons (scope : Scope) (a : Value) (rest : List (Expr.CompareOp × Expr)) :
    Follows g (Value.moved g) (evalComparisons n scope a rest)
      (evalComparisons n (scope.moved g) (a.moved g) rest)
  holdsElement (container element : Value) :
    Follows g id (holdsElement n container element)
      (holdsElement n (container.moved g) (element.moved g))
  search (it : Ref) (element : Value) :
    Follows g id (search n it element) (search n (g.ref it) (element.moved g))
  evalArguments (scope : Scope) (done : Arguments) (rest : List (Expr.ArgumentKind × Expr)) :
    Follows g (Arguments.moved g) (evalArguments n scope done rest)
      (evalArguments n (scope.moved g) (done.moved g) rest)
  assign (scope : Scope) (target : Expr.Target) (v : Value) :
    Follows g id (assign n scope target v) (assign n (scope.moved g) target (v.moved g))
  firstOf (it : Ref) (count : Nat) :
    Follows g (List.map (Value.moved g)) (firstOf n it count) (firstOf n (g.ref it) count)
  fill (r : Ref) (body : GeneratorBody) (active : List Ref) :
    Follows g id (fill n r body active) (fill n (g.ref r) (body.moved g) (active.map g.ref))
  collect (body : GeneratorBody) (active : List Ref) :
    Follows g (List.map (movedEntry g)) (collect n body active)
      (collect n (body.moved g) (active.map g.ref))
  resume (body : GeneratorBody) (active : List Ref) :
    Follows g (Prod.map (Option.map (movedEntry g)) (List.map g.ref)) (resume n body active)
      (resume n (body.moved g) (active.map g.ref))
  evalConditions (scope : Scope) (conditions : List Expr) :
    Follows g id (evalConditions n scope conditions)
      (evalConditions n (scope.moved g) conditions)
  next (it : Ref) : Follows g (Option.map (Value.moved g)) (next n it) (next n (g.ref it))
  drain (it : Ref) : Follows g (List.map (Value.moved g)) (drain n it) (drain n (g.ref it))
  elements (v : Value) :
    Follows g (List.map (Value.moved g)) (elements n v) (elements n (v.moved g))
  withKeys (key : Value) (items : List Value) :
    Follows g (List.map (movedEntry g)) (withKeys n key items)
      (withKeys n (key.moved g) (items.map (Value.moved g)))
  extreme (greatest : Bool) (a : Arguments) :
    Follows g (Value.moved g) (extreme n greatest a) (extreme n greatest (a.moved g))
  extremeFrom (greatest : Bool) (key : Value) (it : Ref) (best : Option (Value × Value)) :
    Follows g (Option.map (Value.moved g)) (extremeFrom n greatest key it best)
      (extremeFrom n greatest (key.moved g) (g.ref it) (best.map (movedEntry g)))
  sumFrom (total : Value) (it : Ref) :
    Follows g (Value.moved g) (sumFrom n total it) (sumFrom n (total.moved g) (g.ref it))
  sumOf (start v : Value) :
    Follows g (Value.moved g) (sumOf n start v) (sumOf n (start.moved g) (v.moved g))
  updateFrom (r it : Ref) (count : Nat) :
    Follows g id (updateFrom n r it count) (updateFrom n (g.ref r) (g.ref it) count)
  convertTo (t : ValueType) (a : Arguments) :
    Follows g (Value.moved g) (convertTo n t a) (convertTo n t (a.moved g))
  callFunction (f : Function) (a : Arguments) :
    Follows g (Value.moved g) (callFunction n f a) (callFunction n (f.moved g) (a.moved g))
  callMethod (self : Value) (m : Method) (a : Arguments) :
    Follows g (Value.moved g) (callMethod n self m a)
      (callMethod n (self.moved g) m (a.moved g))
  call (f : Value) (a : Arguments) :
    Follows g (Value.moved g) (call n f a) (call n (f.moved g) (a.moved g))

/-! ## Parts of expressions -/

theorem constantValue_moved (c : Expr.Constant) :
    Follows g (Value.moved g) (constantValue c) (constantValue c) := by
  cases c with
  | float x => exact .pure (by simp [Value.moved])
  | _ => exact .pure rfl

theorem fieldText_moved (conversion : Option Char) (v : Value) :
    Follows g id (fieldText conversion v) (fieldText conversion (v.moved g)) := by
  refine .get_bind fun s t h => ?_
  simp only [h.quoted, h.text]
  split
  · exact .same _
  · exact (Follows.same _).bind fun _ => .pure rfl
  · exact .same _

theorem mappingEntries_moved (v : Value) :
    Follows g (List.map (movedEntry g)) (mappingEntries v) (mappingEntries (v.moved g)) := by
  have hpath := Value.typePath_moved g v
  cases v with
  | dict r | frame r => exact .get_bind fun s t h => .pure (h.entries r)
  | _ =>
    exact .throw_of_eq
      (congrArg (fun path => Fault.type ("'" ++ path ++ "' object is not a mapping")) hpath)

theorem suspendedGenerator_moved (target : Expr.Target) (v : Value) :
    Follows g (Value.moved g) (suspendedGenerator target v)
      (suspendedGenerator target (v.moved g)) := by
  have hmade : Follows g (Value.moved g)
      (do return .object (← Run.mark) suspendedType "<async_generator>".toList false :
        Run Fault Value)
      (do return .object (← Run.mark) suspendedType "<async_generator>".toList false) :=
    Follows.mark.bind fun _ => .pure rfl
  rw [suspendedGenerator, suspendedGenerator, Value.typeName_moved, Value.typePath_moved]
  exact .ite (.ite (.throw _) hmade) ((iterate_moved v).bind fun _ => hmade)

/-- Arguments by name as entries of a dictionary. -/
theorem putNamed_moved (r : Ref) (named : List (Text × Value)) :
    Follows g (Value.moved g)
      (do
        putAll r (← Run.newDict (named.map fun (x, v) => (.text x, v)))
        return .none : Run Fault Value)
      (do
        putAll (g.ref r) (← Run.newDict ((named.map (movedNamed g)).map fun (x, v) => (.text x, v)))
        return .none) := by
  refine (newDict_named_moved named).bind fun d => ?_
  exact (putAll_moved r d).bind fun _ => .pure rfl

/-- The value that a dictionary has under a key, or one in its place. -/
theorem getEntry_moved (r : Ref) (k : Value) {d d' : Value} (hd : d' = d.moved g) :
    Follows g (Value.moved g)
      (do
        let s ← get
        return (← Run.ofExcept (s.lookup (s.entries r) k)).getD d : Run Fault Value)
      (do
        let s ← get
        return (← Run.ofExcept (s.lookup (s.entries (g.ref r)) (k.moved g))).getD d') := by
  refine .get_bind fun s t hst => ?_
  rw [hst.entries, hst.lookup, hd]
  refine (Follows.ofExcept rfl).bind fun found => .pure ?_
  rcases found with _ | v <;> rfl

namespace EvalFollows

variable (h : EvalFollows g n)
include h

/-! ## Expressions -/

theorem bound (scope : Scope) (e : Option Expr) :
    Follows g (Value.moved g)
      (match e with
        | some e => Stencil.eval n scope e
        | none => return .none)
      (match e with
        | some e => Stencil.eval n (scope.moved g) e
        | none => return .none) := by
  rcases e with _ | e
  · exact .pure rfl
  · exact h.eval scope e

theorem eval_succ (scope : Scope) (e : Expr) :
    Follows g (Value.moved g) (Stencil.eval (n + 1) scope e)
      (Stencil.eval (n + 1) (scope.moved g) e) := by
  cases e with
  | constant c =>
    rw [Stencil.eval, Stencil.eval]
    exact constantValue_moved c
  | name x =>
    rw [Stencil.eval, Stencil.eval]
    exact lookupName_moved scope x
  | format parts =>
    rw [Stencil.eval, Stencil.eval]
    refine (Follows.mapM_over (fun e => h.eval scope e) parts).bind fun texts => .pure ?_
    simp [Value.moved, List.flatMap_map]
  | field value conversion spec =>
    rw [Stencil.eval, Stencil.eval]
    refine (h.eval scope value).bind fun v => (fieldText_moved conversion v).bind fun text => ?_
    exact .ite (.pure rfl) (.throw _)
  | tuple items =>
    rw [Stencil.eval, Stencil.eval]
    exact (h.evalItems scope items).bind fun items => .pure (by simp [Value.moved])
  | list items =>
    rw [Stencil.eval, Stencil.eval]
    exact (h.evalItems scope items).bind fun items => .newList items
  | set items =>
    rw [Stencil.eval, Stencil.eval]
    exact (h.evalItems scope items).bind fun _ => .throw _
  | dict entries =>
    rw [Stencil.eval, Stencil.eval]
    refine (Follows.newDict []).bind fun r => ?_
    refine Follows.bind (f := List.map (movedEntry g))
      (.foldlM_over (fun pending entry => ?_) entries []) fun pending => ?_
    -- an entry without a key stands for all those of a mapping, put in after those before it
    · obtain ⟨_ | key, value⟩ := entry
      · refine (putEntries_moved r pending).bind fun _ => (h.eval scope value).bind fun v => ?_
        have hother : Follows g (List.map (movedEntry g))
            (do
              putEntries r (← mappingEntries v)
              return [])
            (do
              putEntries (g.ref r) (← mappingEntries (v.moved g))
              return []) :=
          (mappingEntries_moved v).bind fun entries =>
            (putEntries_moved r entries).bind fun _ => .pure rfl
        cases v with
        | dict d => exact (putAll_moved r d).bind fun _ => .pure rfl
        | _ => exact hother
      · refine (h.eval scope key).bind fun k => (h.eval scope value).bind fun v => .pure ?_
        simp [movedEntry]
    · exact (putEntries_moved r pending).bind fun _ => .pure rfl
  | starred e =>
    rw [Stencil.eval, Stencil.eval]
    exact .throw _
  | await e =>
    rw [Stencil.eval, Stencil.eval]
    exact .throw _
  | unary op e =>
    rw [Stencil.eval, Stencil.eval]
    exact (h.eval scope e).bind fun v => unaryValue_moved op v
  | binary op left right =>
    rw [Stencil.eval, Stencil.eval]
    refine (h.eval scope left).bind fun a => (h.eval scope right).bind fun b => ?_
    exact binaryValue_moved op a b
  | and left right =>
    rw [Stencil.eval, Stencil.eval]
    refine (h.eval scope left).bind fun a => .get_bind fun s t hst => ?_
    rw [hst.truth]
    exact .ite (h.eval scope right) (.pure rfl)
  | or left right =>
    rw [Stencil.eval, Stencil.eval]
    refine (h.eval scope left).bind fun a => .get_bind fun s t hst => ?_
    rw [hst.truth]
    exact .ite (.pure rfl) (h.eval scope right)
  | compare first rest =>
    rw [Stencil.eval, Stencil.eval]
    exact (h.eval scope first).bind fun a => h.evalComparisons scope a rest
  | conditional test yes no =>
    rw [Stencil.eval, Stencil.eval]
    refine (h.eval scope test).bind fun a => .get_bind fun s t hst => ?_
    rw [hst.truth]
    exact .ite (h.eval scope yes) (h.eval scope no)
  | assign x value =>
    rw [Stencil.eval, Stencil.eval]
    exact (h.eval scope value).bind fun v => (assignName_moved scope x v).bind fun _ => .pure rfl
  | lambda parameters body =>
    rw [Stencil.eval, Stencil.eval]
    refine Follows.bind (f := List.map fun p => (p.1, p.2.1, p.2.2.map (Value.moved g)))
      (.mapM_over (fun p => ?_) parameters) fun parameters => .pure (by simp [Value.moved])
    obtain ⟨kind, x, _ | e⟩ := p
    · exact .pure rfl
    · exact (h.eval scope e).bind fun v => .pure rfl
  | yield _ _ =>
    rw [Stencil.eval, Stencil.eval]
    exact .throw _
  | «attribute» e name =>
    rw [Stencil.eval, Stencil.eval]
    exact (h.eval scope e).bind fun v => memberOf_moved v name
  | subscript e index =>
    rw [Stencil.eval, Stencil.eval]
    refine (h.eval scope e).bind fun v => (h.eval scope index).bind fun i => ?_
    exact subscript_moved v i
  | slice start stop step =>
    rw [Stencil.eval, Stencil.eval]
    refine (h.bound scope start).bind fun start => (h.bound scope stop).bind fun stop => ?_
    exact (h.bound scope step).bind fun step => .pure rfl
  | call function arguments =>
    rw [Stencil.eval, Stencil.eval]
    refine (h.eval scope function).bind fun f => ?_
    exact (h.evalArguments scope ⟨[], []⟩ arguments).bind fun a => h.call f a
  | comprehension kind element clauses =>
    rcases clauses with _ | ⟨⟨target, source, conditions⟩, clauses⟩
    · rw [Stencil.eval, Stencil.eval]
      exact .throw _
    · rw [Stencil.eval, Stencil.eval]
      refine (h.eval scope source).bind fun v => .ite (suspendedGenerator_moved target v) ?_
      refine (iterate_moved v).bind fun first => (Scope.enter_moved scope _).bind fun inner => ?_
      cases kind with
      | generator => exact (Follows.newIterator (.generator _ [first])).bind fun _ => .pure rfl
      | list =>
        refine (h.collect ⟨element, _, inner⟩ [first]).bind fun items => ?_
        have hitems := Follows.newList (g := g) (ε := Fault) (items.map (·.1))
        rwa [List.map_map] at hitems ⊢
      | set => exact .throw _
      | dict =>
        refine (Follows.newDict []).bind fun r => ?_
        exact (h.fill r ⟨element, _, inner⟩ [first]).bind fun _ => .pure rfl

theorem evalItems_succ (scope : Scope) (items : List Expr) :
    Follows g (List.map (Value.moved g)) (Stencil.evalItems (n + 1) scope items)
      (Stencil.evalItems (n + 1) (scope.moved g) items) := by
  have hplain (e : Expr) (rest : List Expr) : Follows g (List.map (Value.moved g))
      (do
        let v ← Stencil.eval n scope e
        return v :: (← Stencil.evalItems n scope rest))
      (do
        let v ← Stencil.eval n (scope.moved g) e
        return v :: (← Stencil.evalItems n (scope.moved g) rest)) :=
    (h.eval scope e).bind fun v => (h.evalItems scope rest).bind fun items => .pure rfl
  cases items with
  | nil =>
    rw [Stencil.evalItems, Stencil.evalItems]
    exact .pure rfl
  | cons e rest =>
    cases e with
    | starred e =>
      rw [Stencil.evalItems, Stencil.evalItems]
      refine (h.eval scope e).bind fun v => .get_bind fun s t hst => ?_
      rw [hst.isIterable, Value.typePath_moved]
      refine .ite (.throw_bind _ _ _) ((h.elements v).bind fun items => ?_)
      exact (h.evalItems scope rest).bind fun rest => .pure List.map_append.symm
    | _ =>
      simp only [Stencil.evalItems]
      exact hplain _ rest

theorem evalComparisons_succ (scope : Scope) (a : Value) (rest : List (Expr.CompareOp × Expr)) :
    Follows g (Value.moved g) (Stencil.evalComparisons (n + 1) scope a rest)
      (Stencil.evalComparisons (n + 1) (scope.moved g) (a.moved g) rest) := by
  rcases rest with _ | ⟨⟨op, e⟩, rest⟩
  · rw [Stencil.evalComparisons, Stencil.evalComparisons]
    exact .pure rfl
  · rw [Stencil.evalComparisons, Stencil.evalComparisons]
    refine (h.eval scope e).bind fun b => ?_
    have hrest (holds : Bool) : Follows g (Value.moved g)
        (if holds then
          if rest.isEmpty then return .bool true else Stencil.evalComparisons n scope b rest
        else return .bool false)
        (if holds then
          if rest.isEmpty then return .bool true
          else Stencil.evalComparisons n (scope.moved g) (b.moved g) rest
        else return .bool false) :=
      .ite (.ite (.pure rfl) (h.evalComparisons scope b rest)) (.pure rfl)
    cases op with
    | isIn => exact (h.holdsElement b a).bind hrest
    | notIn => exact (h.holdsElement b a).bind fun holds => hrest (!holds)
    | _ => exact (compareValues_moved _ a b).bind hrest

theorem holdsElement_succ (container element : Value) :
    Follows g id (Stencil.holdsElement (n + 1) container element)
      (Stencil.holdsElement (n + 1) (container.moved g) (element.moved g)) := by
  have hother := contains_moved (g := g) container element
  cases container with
  | iterator r =>
    rw [Stencil.holdsElement, Value.moved, Stencil.holdsElement]
    exact (iterate_moved (.iterator r)).bind fun it => h.search it element
  | generator r =>
    rw [Stencil.holdsElement, Value.moved, Stencil.holdsElement]
    exact (iterate_moved (.generator r)).bind fun it => h.search it element
  | frame r =>
    rw [Stencil.holdsElement, Value.moved, Stencil.holdsElement]
    exact (iterate_moved (.frame r)).bind fun it => h.search it element
  | _ =>
    simp only [Value.moved, Stencil.holdsElement]
    exact hother

theorem search_succ (it : Ref) (element : Value) :
    Follows g id (Stencil.search (n + 1) it element)
      (Stencil.search (n + 1) (g.ref it) (element.moved g)) := by
  rw [Stencil.search, Stencil.search]
  refine (h.next it).bind fun found => ?_
  rcases found with _ | v
  · exact .pure rfl
  · refine .get_bind fun s t hst => ?_
    rw [hst.same]
    exact (Follows.same _).bind fun same => .ite (.pure rfl) (h.search it element)

theorem evalArguments_succ (scope : Scope) (done : Arguments)
    (rest : List (Expr.ArgumentKind × Expr)) :
    Follows g (Arguments.moved g) (Stencil.evalArguments (n + 1) scope done rest)
      (Stencil.evalArguments (n + 1) (scope.moved g) (done.moved g) rest) := by
  rcases rest with _ | ⟨⟨kind, e⟩, rest⟩
  · rw [Stencil.evalArguments, Stencil.evalArguments]
    exact .pure rfl
  · rw [Stencil.evalArguments, Stencil.evalArguments]
    refine (h.eval scope e).bind fun v => ?_
    have hrest {more more' : Arguments} (hmore : more' = more.moved g) :
        Follows g (Arguments.moved g) (Stencil.evalArguments n scope more rest)
          (Stencil.evalArguments n (scope.moved g) more' rest) := by
      rw [hmore]
      exact h.evalArguments scope more rest
    cases kind with
    | positional => exact hrest (by simp [Arguments.moved])
    | unpacked =>
      exact (h.elements v).bind fun items => hrest (by simp [Arguments.moved])
    | named x => exact hrest (by simp [Arguments.moved, movedNamed])
    | unpackedNamed =>
      refine (mappingEntries_moved v).bind fun entries => ?_
      refine Follows.bind (f := List.map (movedNamed g)) (.mapM (fun p => ?_) entries)
        fun named => hrest (by simp [Arguments.moved])
      simp only [movedEntry, Value.text?_moved]
      rcases p.1.text? with _ | x
      · exact .throw _
      · exact .pure rfl

theorem assignAll (scope : Scope) (targets : List Expr.Target) (items : List Value) :
    Follows g id
      ((targets.zip items).forM fun (t, v) => Stencil.assign n scope t v)
      ((targets.zip (items.map (Value.moved g))).forM fun (t, v) =>
        Stencil.assign n (scope.moved g) t v) := by
  rw [List.zip_map_right]
  exact Follows.forM (fun p => h.assign scope p.1 p.2) _

theorem assign_succ (scope : Scope) (target : Expr.Target) (v : Value) :
    Follows g id (Stencil.assign (n + 1) scope target v)
      (Stencil.assign (n + 1) (scope.moved g) target (v.moved g)) := by
  cases target with
  | name x =>
    rw [Stencil.assign, Stencil.assign]
    exact assignName_moved scope x v
  | «attribute» e name =>
    rw [Stencil.assign, Stencil.assign]
    exact (h.eval scope e).bind fun v => setMember_moved v name
  | subscript e index =>
    rw [Stencil.assign, Stencil.assign]
    refine (h.eval scope e).bind fun container => (h.eval scope index).bind fun i => ?_
    have hother := setElement_moved (g := g) container i v
    cases container with
    | list r =>
      cases i with
      | slice start stop step =>
        refine .get_bind fun s t hst => ?_
        simp only [hst.isIterable]
        refine .ite ?_ ((h.elements v).bind fun items => setSlice_moved r start stop step items)
        cases step <;> exact .throw_bind _ _ _
      | _ => exact hother
    | _ => exact hother
  | awaited t =>
    rw [Stencil.assign, Stencil.assign]
    exact .throw _
  | rest t =>
    rw [Stencil.assign, Stencil.assign]
    exact h.assign scope t v
  | sequence targets =>
    rw [Stencil.assign, Stencil.assign]
    refine .get_bind fun s t hst => ?_
    rw [hst.isIterable, Value.typePath_moved]
    refine .ite (.throw_bind _ _ _) ((iterate_moved v).bind fun it => ?_)
    -- without a target for the rest, one more element than there are targets is looked for
    rcases restIndex? targets with _ | k
    · refine (h.firstOf it targets.length).bind fun items => ?_
      rw [List.length_map]
      refine .ite (.throw _) ((h.next it).bind fun more => ?_)
      rw [Option.isSome_map]
      exact .ite (.throw _) (h.assignAll scope targets items)
    · refine (h.drain it).bind fun items => ?_
      rw [List.length_map]
      refine .ite (.throw _) ?_
      rw [← List.map_take, ← List.map_drop]
      refine (Follows.newList _).bind fun middle => ?_
      rw [← List.map_take, ← List.map_drop, ← List.map_cons, ← List.map_append]
      exact h.assignAll scope targets _

theorem firstOf_succ (it : Ref) (count : Nat) :
    Follows g (List.map (Value.moved g)) (Stencil.firstOf (n + 1) it count)
      (Stencil.firstOf (n + 1) (g.ref it) count) := by
  cases count with
  | zero =>
    rw [Stencil.firstOf, Stencil.firstOf]
    exact .pure rfl
  | succ count =>
    rw [Stencil.firstOf, Stencil.firstOf]
    refine (h.next it).bind fun found => ?_
    rcases found with _ | v
    · exact .pure rfl
    · exact (h.firstOf it count).bind fun items => .pure rfl

theorem fill_succ (r : Ref) (body : GeneratorBody) (active : List Ref) :
    Follows g id (Stencil.fill (n + 1) r body active)
      (Stencil.fill (n + 1) (g.ref r) (body.moved g) (active.map g.ref)) := by
  rw [Stencil.fill, Stencil.fill]
  refine (h.resume body active).bind fun result => ?_
  obtain ⟨_ | entry, active⟩ := result
  · exact .pure rfl
  · exact (putEntries_moved r [entry]).bind fun _ => h.fill r body active

theorem collect_succ (body : GeneratorBody) (active : List Ref) :
    Follows g (List.map (movedEntry g)) (Stencil.collect (n + 1) body active)
      (Stencil.collect (n + 1) (body.moved g) (active.map g.ref)) := by
  rw [Stencil.collect, Stencil.collect]
  refine (h.resume body active).bind fun result => ?_
  obtain ⟨_ | x, active⟩ := result
  · exact .pure rfl
  · exact (h.collect body active).bind fun rest => .pure rfl

theorem resume_succ (body : GeneratorBody) (active : List Ref) :
    Follows g (Prod.map (Option.map (movedEntry g)) (List.map g.ref))
      (Stencil.resume (n + 1) body active)
      (Stencil.resume (n + 1) (body.moved g) (active.map g.ref)) := by
  rcases active with _ | ⟨it, outer⟩
  · rw [Stencil.resume, List.map_nil, Stencil.resume]
    exact .pure rfl
  · rw [Stencil.resume, List.map_cons, Stencil.resume]
    refine (h.next it).bind fun found => ?_
    rcases found with _ | v
    · exact h.resume body outer
    · -- the clause is told by how many iterators are in progress outside it
      simp only [Option.map_some, List.length_map, GeneratorBody.moved]
      rcases body.clauses[outer.length]? with _ | ⟨target, source, conditions⟩
      · exact .pure rfl
      · refine (h.assign body.scope target v).bind fun _ => ?_
        refine (h.evalConditions body.scope conditions).bind fun holds => ?_
        refine .ite ?_ (h.resume body (it :: outer))
        rcases body.clauses[outer.length + 1]? with _ | ⟨target, source, conditions⟩
        · refine (h.eval body.scope body.element.1).bind fun k => ?_
          rcases body.element.2 with _ | e
          · exact .pure rfl
          · exact (h.eval body.scope e).bind fun v => .pure rfl
        · refine (h.eval body.scope source).bind fun v => (iterate_moved v).bind fun inner => ?_
          exact h.resume body (inner :: it :: outer)

theorem evalConditions_succ (scope : Scope) (conditions : List Expr) :
    Follows g id (Stencil.evalConditions (n + 1) scope conditions)
      (Stencil.evalConditions (n + 1) (scope.moved g) conditions) := by
  cases conditions with
  | nil =>
    rw [Stencil.evalConditions, Stencil.evalConditions]
    exact .pure rfl
  | cons e rest =>
    rw [Stencil.evalConditions, Stencil.evalConditions]
    refine (h.eval scope e).bind fun v => .get_bind fun s t hst => ?_
    rw [hst.truth]
    exact .ite (h.evalConditions scope rest) (.pure rfl)

/-! ## Iterators -/

theorem next_succ (it : Ref) :
    Follows g (Option.map (Value.moved g)) (Stencil.next (n + 1) it)
      (Stencil.next (n + 1) (g.ref it)) := by
  rw [Stencil.next, Stencil.next]
  refine .get_bind fun s t hst => ?_
  have hset (source : Source) (v : Option Value) : Follows g (Option.map (Value.moved g))
      (do
        Run.replace it (.iterator source)
        return v : Run Fault (Option Value))
      (do
        Run.replace (g.ref it) (.iterator (source.moved g))
        return v.map (Value.moved g)) :=
    (Follows.replace it (.iterator source)).bind fun _ => .pure rfl
  -- an iterator at its end is replaced by one with nothing to give
  have hfinish := hset (.values []) none
  rw [hst.cell]
  rcases s.cells[it]? with _ | (_ | _ | source | _ | _)
  · exact .pure rfl
  · exact .pure rfl
  · exact .pure rfl
  · cases source with
    | values rest =>
      rcases rest with _ | ⟨v, rest⟩
      · exact .pure rfl
      · exact hset (.values rest) (some v)
    | items list i =>
      have hitems := congrArg (·[i]?) (hst.items list)
      simp only [List.getElem?_map] at hitems
      simp only [Option.map_some, Cell.moved, Source.moved, hitems]
      rcases (s.items list)[i]? with _ | v
      · exact hfinish
      · exact hset (.items list (i + 1)) (some v)
    | entries dict kind i size given =>
      simp only [Option.map_some, Cell.moved, Source.moved, hst.dictionary, Dictionary.size_moved,
        Dictionary.entryFrom?_moved]
      refine .ite (.throw _) ?_
      rcases (s.dictionary dict).entryFrom? i with _ | ⟨⟨k, v⟩, place⟩
      · exact hfinish
      · refine .ite (hfinish.bind fun _ => .throw_bind _ _ _) ?_
        have hgiven := hset (.entries dict kind place size (given + 1))
        cases kind with
        | keys => exact hgiven (some k)
        | values => exact hgiven (some v)
        | items => exact hgiven (some (.tuple [k, v]))
    | columns frame i =>
      have hcolumn : t.lookup (t.entries (g.ref frame)) (.int i) =
          (s.lookup (s.entries frame) (.int i)).map (Option.map (Value.moved g)) := by
        rw [hst.entries]
        exact hst.lookup (s.entries frame) (.int i)
      simp only [Option.map_some, Cell.moved, Source.moved, hcolumn]
      refine (Follows.ofExcept rfl).bind fun found => ?_
      rcases found with _ | v
      · exact .throw _
      · exact hset (.columns frame (i + 1)) (some v)
    | range start stop step =>
      exact .ite (hset (.range (start + step) stop step) (some (.int start))) hfinish
    | generator body active =>
      -- it is busy while its body is at work, and at its end if that fails
      refine (Follows.replace it (.iterator .busy)).bind fun _ => ?_
      refine ((h.resume body active).tryCatch fun fault => hfinish.bind fun _ => .throw _).bind
        fun result => ?_
      obtain ⟨_ | ⟨v, rest⟩, active⟩ := result
      · exact hfinish
      · exact hset (.generator body active) (some v)
    | busy => exact .throw _
  · exact .pure rfl
  · exact .pure rfl

theorem drainNext (it : Ref) :
    Follows g (List.map (Value.moved g))
      (do
        match ← Stencil.next n it with
        | some v => return v :: (← Stencil.drain n it)
        | none => return [])
      (do
        match ← Stencil.next n (g.ref it) with
        | some v => return v :: (← Stencil.drain n (g.ref it))
        | none => return []) := by
  refine (h.next it).bind fun found => ?_
  rcases found with _ | v
  · exact .pure rfl
  · exact (h.drain it).bind fun rest => .pure rfl

theorem drain_succ (it : Ref) :
    Follows g (List.map (Value.moved g)) (Stencil.drain (n + 1) it)
      (Stencil.drain (n + 1) (g.ref it)) := by
  have hnext := h.drainNext it
  rw [Stencil.drain, Stencil.drain]
  refine .get_bind fun s t hst => ?_
  rw [hst.cell]
  rcases s.cells[it]? with _ | (_ | _ | source | _ | _)
  · exact hnext
  · exact hnext
  · exact hnext
  · cases source with
    | values rest => exact (Follows.replace it (.iterator (.values []))).bind fun _ => .pure rfl
    | _ => exact hnext
  · exact hnext
  · exact hnext

theorem elements_succ (v : Value) :
    Follows g (List.map (Value.moved g)) (Stencil.elements (n + 1) v)
      (Stencil.elements (n + 1) (v.moved g)) := by
  have hpath := Value.typePath_moved g v
  rw [Stencil.elements, Stencil.elements]
  refine (checkLength_moved v).bind fun _ => .get_bind fun s t hst => ?_
  rw [hst.elements?]
  rcases s.elements? v with _ | items
  · cases v with
    | iterator r | generator r => exact h.drain r
    | frame r => exact (iterate_moved (.frame r)).bind fun it => h.drain it
    | _ =>
      exact .throw_of_eq
        (congrArg (fun path => Fault.type ("'" ++ path ++ "' object is not iterable")) hpath)
  · exact .pure rfl

theorem withKeys_succ (key : Value) (items : List Value) :
    Follows g (List.map (movedEntry g)) (Stencil.withKeys (n + 1) key items)
      (Stencil.withKeys (n + 1) (key.moved g) (items.map (Value.moved g))) := by
  have hcall : Follows g (List.map (movedEntry g))
      (items.mapM fun v => do return (← Stencil.call n key ⟨[v], []⟩, v))
      ((items.map (Value.moved g)).mapM fun v => do
        return (← Stencil.call n (key.moved g) ⟨[v], []⟩, v)) := by
    refine Follows.mapM (fun v => ?_) items
    exact (h.call key ⟨[v], []⟩).bind fun k => .pure rfl
  cases key with
  | none =>
    simp only [Value.moved, Stencil.withKeys]
    exact .pure (by simp [movedEntry])
  | _ =>
    simp only [Value.moved, Stencil.withKeys] at hcall ⊢
    exact hcall

theorem extremeOrDefault (greatest : Bool) (key : Value) (default : Option Value) (it : Ref) :
    Follows g (Value.moved g)
      (do
        match ← Stencil.extremeFrom n greatest key it none, default with
        | some v, _ => return v
        | none, some v => return v
        | none, none => throw (.value
            ((if greatest then "max" else "min") ++ "() arg is an empty sequence")))
      (do
        match ← Stencil.extremeFrom n greatest (key.moved g) (g.ref it) none,
          default.map (Value.moved g) with
        | some v, _ => return v
        | none, some v => return v
        | none, none => throw (.value
            ((if greatest then "max" else "min") ++ "() arg is an empty sequence"))) := by
  refine (h.extremeFrom greatest key it none).bind fun best => ?_
  rcases best with _ | v
  · rcases default with _ | v
    · exact .throw _
    · exact .pure rfl
  · exact .pure rfl

theorem extreme_succ (greatest : Bool) (a : Arguments) :
    Follows g (Value.moved g) (Stencil.extreme (n + 1) greatest a)
      (Stencil.extreme (n + 1) greatest (a.moved g)) := by
  have hkey : ((a.moved g).named.lookup "key".toList).getD .none =
      ((a.named.lookup "key".toList).getD .none).moved g :=
    lookup_getD_movedNamed a.named "key".toList rfl
  have hdefault : (a.moved g).named.lookup "default".toList =
      (a.named.lookup "default".toList).map (Value.moved g) :=
    lookup_movedNamed a.named "default".toList
  have hpositional : (a.moved g).positional = a.positional.map (Value.moved g) := rfl
  rw [Stencil.extreme, Stencil.extreme, onlyNamed_moved]
  refine .ite (wrongArguments_bind_moved _ _ _) ?_
  simp only [hkey, hdefault, hpositional]
  generalize (a.named.lookup "key".toList).getD .none = key
  generalize a.named.lookup "default".toList = default
  have hbest := h.extremeOrDefault greatest key default
  rcases a.positional with _ | ⟨v, _ | ⟨w, rest⟩⟩
  · exact wrongArguments_bind_moved _ _ _
  · exact (iterate_moved v).bind hbest
  · rw [Option.isSome_map]
    refine .ite (wrongArguments_bind_moved _ _ _) ?_
    exact (Follows.newIterator (.values (v :: w :: rest))).bind hbest

theorem extremeFrom_succ (greatest : Bool) (key : Value) (it : Ref)
    (best : Option (Value × Value)) :
    Follows g (Option.map (Value.moved g)) (Stencil.extremeFrom (n + 1) greatest key it best)
      (Stencil.extremeFrom (n + 1) greatest (key.moved g) (g.ref it)
        (best.map (movedEntry g))) := by
  rw [Stencil.extremeFrom, Stencil.extremeFrom]
  refine (h.next it).bind fun found => ?_
  rcases found with _ | v
  · exact .pure (by simp [movedEntry, Function.comp_def])
  · have hbetter (k : Value) : Follows g (Option.map (Value.moved g))
        (do
          let better ← isBetter greatest best k
          Stencil.extremeFrom n greatest key it (if better then some (k, v) else best))
        (do
          let better ← isBetter greatest (best.map (movedEntry g)) (k.moved g)
          Stencil.extremeFrom n greatest (key.moved g) (g.ref it)
            (if better then some (k.moved g, v.moved g) else best.map (movedEntry g))) := by
      refine (isBetter_moved greatest best k).bind fun better => ?_
      cases better with
      | true => exact h.extremeFrom greatest key it (some (k, v))
      | false => exact h.extremeFrom greatest key it best
    cases key with
    | none => exact hbetter v
    | _ => exact (h.call _ ⟨[v], []⟩).bind hbetter

theorem sumFrom_succ (total : Value) (it : Ref) :
    Follows g (Value.moved g) (Stencil.sumFrom (n + 1) total it)
      (Stencil.sumFrom (n + 1) (total.moved g) (g.ref it)) := by
  rw [Stencil.sumFrom, Stencil.sumFrom]
  refine (h.next it).bind fun found => ?_
  rcases found with _ | v
  · exact .pure rfl
  · exact (binaryValue_moved .add total v).bind fun total => h.sumFrom total it

theorem sumOf_succ (start v : Value) :
    Follows g (Value.moved g) (Stencil.sumOf (n + 1) start v)
      (Stencil.sumOf (n + 1) (start.moved g) (v.moved g)) := by
  rw [Stencil.sumOf, Stencil.sumOf]
  refine (iterate_moved v).bind fun it => (checkSumStart_moved start).bind fun _ => ?_
  exact h.sumFrom start it

theorem updateFrom_succ (r it : Ref) (count : Nat) :
    Follows g id (Stencil.updateFrom (n + 1) r it count)
      (Stencil.updateFrom (n + 1) (g.ref r) (g.ref it) count) := by
  rw [Stencil.updateFrom, Stencil.updateFrom]
  refine (h.next it).bind fun found => ?_
  rcases found with _ | item
  · exact .pure rfl
  · refine .get_bind fun s t hst => ?_
    rw [hst.isIterable]
    refine .ite (.throw_bind _ _ _) ((h.elements item).bind fun parts => ?_)
    rcases parts with _ | ⟨k, _ | ⟨v, _ | ⟨w, rest⟩⟩⟩
    · exact .throw_bind _ _ _
    · exact .throw_bind _ _ _
    · exact (putEntries_moved r [(k, v)]).bind fun _ => h.updateFrom r it (count + 1)
    · simp only [List.map_cons, List.length_cons, List.length_map]
      exact .throw_bind _ _ _

/-! ## Calls

A function takes few of the shapes that arguments can have, and fails alike on all others. -/

theorem convertTo_succ (t : ValueType) (a : Arguments) :
    Follows g (Value.moved g) (Stencil.convertTo (n + 1) t a)
      (Stencil.convertTo (n + 1) t (a.moved g)) := by
  have hwrong (t : ValueType) : Follows g (Value.moved g)
      (wrongArguments t.name) (wrongArguments t.name) := wrongArguments_moved t.name
  rw [Stencil.convertTo, Stencil.convertTo]
  refine .get_bind fun s u hst => ?_
  cases t with
  | bool =>
    obtain ⟨_ | ⟨v, _ | ⟨w, rest⟩⟩, _ | ⟨p, named⟩⟩ := a
    · exact .pure rfl
    pick_goal 2
    · exact .pure (congrArg Value.bool (hst.truth v))
    all_goals exact hwrong .bool
  | int =>
    obtain ⟨_ | ⟨v, _ | ⟨base, _ | ⟨w, rest⟩⟩⟩, _ | ⟨p, _ | ⟨q, named⟩⟩⟩ := a
    · exact .pure rfl
    pick_goal 3
    · exact convertToInt_moved v
    pick_goal 3
    · exact .ite (convertToIntIn_moved p.2 v) (wrongArguments_moved _)
    pick_goal 4
    · exact convertToIntIn_moved base v
    all_goals exact hwrong .int
  | float =>
    obtain ⟨_ | ⟨v, _ | ⟨w, rest⟩⟩, _ | ⟨p, named⟩⟩ := a
    · exact .pure (by simp [Value.moved])
    pick_goal 2
    · exact convertToFloat_moved v
    all_goals exact hwrong .float
  | text =>
    obtain ⟨_ | ⟨v, _ | ⟨w, rest⟩⟩, _ | ⟨p, named⟩⟩ := a
    · exact .pure rfl
    pick_goal 2
    · have htext : Follows g id (Run.ofExcept (s.text v) : Run Fault Text)
          (Run.ofExcept (u.text (v.moved g))) := by
        rw [hst.text]
        exact .same _
      exact htext.bind fun _ => .pure rfl
    all_goals exact hwrong .text
  | list =>
    obtain ⟨_ | ⟨v, _ | ⟨w, rest⟩⟩, _ | ⟨p, named⟩⟩ := a
    · exact .newList []
    pick_goal 2
    · exact (h.elements v).bind fun items => .newList items
    all_goals exact hwrong .list
  | range =>
    obtain ⟨positional, _ | ⟨p, named⟩⟩ := a
    · exact rangeOf_moved positional
    · exact hwrong .range
  | type =>
    obtain ⟨_ | ⟨v, _ | ⟨w, rest⟩⟩, _ | ⟨p, named⟩⟩ := a
    pick_goal 3
    · exact .pure (congrArg Value.type (Value.typeOf_moved g v))
    all_goals exact hwrong .type
  | _ => exact hwrong _

theorem callFunction_succ (f : Function) (a : Arguments) :
    Follows g (Value.moved g) (Stencil.callFunction (n + 1) f a)
      (Stencil.callFunction (n + 1) (f.moved g) (a.moved g)) := by
  have hwrong (f : Function) : Follows g (Value.moved g)
      (wrongArguments f.name) (wrongArguments f.name) := wrongArguments_moved f.name
  rw [Stencil.callFunction.eq_def, Stencil.callFunction.eq_def]
  simp only [onlyNamed_moved]
  cases f with
  | minimum => exact h.extreme false a
  | maximum => exact h.extreme true a
  | boom => exact .throw _
  | other name => exact hwrong (.other name)
  | quit name =>
    obtain ⟨_ | ⟨v, _ | ⟨w, rest⟩⟩, _ | ⟨p, _ | ⟨q, named⟩⟩⟩ := a
    pick_goal 2
    · exact .ite (.throw _) (hwrong (.quit name))
    · exact .throw _
    pick_goal 2
    · exact .throw _
    all_goals exact hwrong (.quit name)
  | length =>
    obtain ⟨_ | ⟨v, _ | ⟨w, rest⟩⟩, _ | ⟨p, named⟩⟩ := a
    pick_goal 3
    · exact lengthOf_moved v
    all_goals exact hwrong .length
  | quoted =>
    obtain ⟨_ | ⟨v, _ | ⟨w, rest⟩⟩, _ | ⟨p, named⟩⟩ := a
    pick_goal 3
    · refine .get_bind fun s t hst => ?_
      rw [hst.quoted]
      exact (Follows.same _).bind fun _ => .pure rfl
    all_goals exact hwrong .quoted
  | absolute =>
    obtain ⟨_ | ⟨v, _ | ⟨w, rest⟩⟩, _ | ⟨p, named⟩⟩ := a
    pick_goal 3
    · exact absoluteOf_moved v
    all_goals exact hwrong .absolute
  | bracket =>
    obtain ⟨_ | ⟨v, _ | ⟨w, rest⟩⟩, _ | ⟨p, named⟩⟩ := a
    pick_goal 3
    · simp only [Function.moved, Arguments.moved, List.map_cons, List.map_nil, Value.text?_moved,
        Value.typePath_moved]
      rcases v.text? with _ | t
      · exact .throw _
      · exact .pure rfl
    all_goals exact hwrong .bracket
  | sum =>
    obtain ⟨_ | ⟨v, _ | ⟨start, _ | ⟨w, rest⟩⟩⟩, _ | ⟨p, _ | ⟨q, named⟩⟩⟩ := a
    pick_goal 4
    · exact h.sumOf (.int 0) v
    pick_goal 4
    · exact .ite (h.sumOf p.2 v) (wrongArguments_moved _)
    pick_goal 5
    · exact h.sumOf start v
    all_goals exact hwrong .sum
  | sorted =>
    obtain ⟨_ | ⟨v, _ | ⟨w, rest⟩⟩, named⟩ := a
    pick_goal 2
    · have hkey := lookup_getD_movedNamed (g := g) (d := .none) named "key".toList rfl
      have hreverse (b : Bool) :=
        lookup_getD_movedNamed (g := g) (d := .bool b) named "reverse".toList rfl
      refine .ite (wrongArguments_bind_moved _ _ _) ((h.elements v).bind fun items => ?_)
      simp only [Arguments.moved, hkey, hreverse]
      refine (flagOf_moved _).bind fun reverse => (h.withKeys _ items).bind fun entries => ?_
      exact (sortByKeys_moved reverse entries).bind fun sorted => .newList sorted
    all_goals exact hwrong .sorted
  | ofMethod owner m =>
    obtain ⟨_ | ⟨self, positional⟩, named⟩ := a
    · exact .throw _
    · simp only [Function.moved, Arguments.moved, List.map_cons, Value.isOf_moved,
        Value.typePath_moved]
      exact .ite (h.callMethod self m ⟨positional, named⟩) (.throw _)
  | counter r =>
    obtain ⟨_ | ⟨v, rest⟩, _ | ⟨p, named⟩⟩ := a
    · refine .get_bind fun s t hst => ?_
      rw [hst.cell]
      rcases s.cells[r]? with _ | (_ | _ | _ | calls | _)
      pick_goal 5
      · exact (Follows.replace r (.counter (calls + 1))).bind fun _ => .pure rfl
      all_goals exact .throw _
    all_goals exact hwrong (.counter r)

theorem callMethod_succ (self : Value) (m : Method) (a : Arguments) :
    Follows g (Value.moved g) (Stencil.callMethod (n + 1) self m a)
      (Stencil.callMethod (n + 1) (self.moved g) m (a.moved g)) := by
  have hwrong (m : Method) : Follows g (Value.moved g)
      (wrongArguments m.name) (wrongArguments m.name) := wrongArguments_moved m.name
  rw [Stencil.callMethod.eq_def, Stencil.callMethod.eq_def]
  simp only [Value.text?_moved, Value.place?_moved]
  generalize self.text?.getD [] = t
  cases m with
  | upper | lower =>
    obtain ⟨_ | ⟨v, rest⟩, _ | ⟨p, named⟩⟩ := a
    · exact .pure rfl
    all_goals exact hwrong _
  | strip =>
    obtain ⟨_ | ⟨v, _ | ⟨w, rest⟩⟩, _ | ⟨p, named⟩⟩ := a
    · exact stripText_moved t .none
    pick_goal 2
    · exact stripText_moved t v
    all_goals exact hwrong .strip
  | split =>
    have hsep := argument_moved (g := g) (d := .none) a 0 "sep".toList rfl
    have hcount := argument_moved (g := g) (d := .int (-1)) a 1 "maxsplit".toList rfl
    have hlength : (a.moved g).positional.length = a.positional.length := List.length_map _
    simp only [hsep, hcount, hlength]
    exact .ite (splitText_moved t _ _) (hwrong .split)
  | join =>
    obtain ⟨_ | ⟨v, _ | ⟨w, rest⟩⟩, _ | ⟨p, named⟩⟩ := a
    pick_goal 3
    · refine .get_bind fun s u hst => ?_
      rw [hst.isIterable]
      exact .ite (.throw_bind _ _ _) ((h.elements v).bind fun items => joinTexts_moved t items)
    all_goals exact hwrong .join
  | replace =>
    obtain ⟨_ | ⟨v, _ | ⟨w, _ | ⟨x, _ | ⟨y, rest⟩⟩⟩⟩, _ | ⟨p, named⟩⟩ := a
    pick_goal 5
    · exact replaceText_moved t v w (.int (-1))
    pick_goal 6
    · exact replaceText_moved t v w x
    all_goals exact hwrong .replace
  | startsWith =>
    obtain ⟨_ | ⟨v, _ | ⟨w, _ | ⟨x, _ | ⟨y, rest⟩⟩⟩⟩, _ | ⟨p, named⟩⟩ := a
    pick_goal 3
    · exact startsWithText_moved t v .none .none
    pick_goal 4
    · exact startsWithText_moved t v w .none
    pick_goal 5
    · exact startsWithText_moved t v w x
    all_goals exact hwrong .startsWith
  | append =>
    rcases self.place? with _ | r
    · exact hwrong .append
    · obtain ⟨_ | ⟨v, _ | ⟨w, rest⟩⟩, _ | ⟨p, named⟩⟩ := a
      pick_goal 3
      · refine .get_bind fun s u hst => ?_
        have hlist := Follows.replace (g := g) (ε := Fault) r (.list (s.items r ++ [v]))
        rw [Cell.moved, List.map_append, ← hst.items] at hlist
        exact hlist.bind fun _ => .pure rfl
      all_goals exact hwrong .append
  | listPop =>
    rcases self.place? with _ | r
    · exact hwrong .listPop
    · obtain ⟨_ | ⟨v, _ | ⟨w, rest⟩⟩, _ | ⟨p, named⟩⟩ := a
      · exact popItem_moved r (.int (-1))
      pick_goal 2
      · exact popItem_moved r v
      all_goals exact hwrong .listPop
  | get =>
    rcases self.place? with _ | r
    · exact hwrong .get
    · obtain ⟨_ | ⟨v, _ | ⟨w, _ | ⟨x, rest⟩⟩⟩, _ | ⟨p, named⟩⟩ := a
      pick_goal 3
      · exact getEntry_moved r v rfl
      pick_goal 4
      · exact getEntry_moved r v rfl
      all_goals exact hwrong .get
  | keys | values | items =>
    rcases self.place? with _ | r
    · exact hwrong _
    · obtain ⟨_ | ⟨v, rest⟩, _ | ⟨p, named⟩⟩ := a
      · exact Follows.mark.bind fun _ => .pure rfl
      all_goals exact hwrong _
  | frameKeys =>
    rcases self.place? with _ | r
    · exact hwrong .frameKeys
    · obtain ⟨_ | ⟨v, rest⟩, _ | ⟨p, named⟩⟩ := a
      · refine .get_bind fun s u hst => ?_
        have hkeys := Follows.newList (g := g) (ε := Fault) ((s.entries r).map (·.1))
        rw [hst.entries]
        rwa [List.map_map] at hkeys ⊢
      all_goals exact hwrong .frameKeys
  | update =>
    rcases self.place? with _ | r
    · exact hwrong .update
    · have hnamed := putNamed_moved (g := g) r a.named
      obtain ⟨_ | ⟨v, _ | ⟨w, rest⟩⟩, named⟩ := a
      · exact hnamed
      · cases v with
        | dict d => exact (putAll_moved r d).bind fun _ => hnamed
        | frame d =>
          refine .get_bind fun s u hst => ?_
          rw [hst.entries]
          exact (putEntries_moved r _).bind fun _ => hnamed
        | _ => exact (iterate_moved _).bind fun it => (h.updateFrom r it 0).bind fun _ => hnamed
      · cases v <;> exact wrongArguments_bind_moved _ _ _
  | dictPop =>
    rcases self.place? with _ | r
    · exact hwrong .dictPop
    · obtain ⟨_ | ⟨v, _ | ⟨w, _ | ⟨x, rest⟩⟩⟩, _ | ⟨p, named⟩⟩ := a
      pick_goal 3
      · exact popEntry_moved r v none
      pick_goal 4
      · exact popEntry_moved r v (some w)
      all_goals exact hwrong .dictPop

theorem call_succ (f : Value) (a : Arguments) :
    Follows g (Value.moved g) (Stencil.call (n + 1) f a)
      (Stencil.call (n + 1) (f.moved g) (a.moved g)) := by
  have hpath := Value.typePath_moved g f
  rw [Stencil.call.eq_def, Stencil.call.eq_def]
  simp only
  cases f with
  | type t => exact h.convertTo t a
  | function f => exact h.callFunction f a
  | method self m => exact h.callMethod self m a
  | closure parameters body scope =>
    refine (bindParameters_moved parameters a).bind fun bound => ?_
    have hnames : (bound.map (movedNamed g)).map (·.1) = bound.map (·.1) := by
      simp [movedNamed, Function.comp_def]
    rw [hnames]
    refine (Scope.enter_moved scope _).bind fun inner => ?_
    refine (Follows.forM (fun p => assignName_moved inner p.1 p.2) bound).bind fun _ => ?_
    exact h.eval inner body
  | _ =>
    exact .throw_of_eq
      (congrArg (fun path => Fault.type ("'" ++ path ++ "' object is not callable")) hpath)

end EvalFollows

/-- An evaluation takes the same course on moved values, with any amount of fuel. -/
theorem evalFollows (g : Gap) (n : Nat) : EvalFollows g n := by
  induction n with
  | zero =>
    constructor <;> intros <;>
      simp only [eval, evalItems, evalComparisons, holdsElement, search, evalArguments, assign,
        firstOf, fill, collect, resume, evalConditions, next, drain, elements, withKeys, extreme,
        extremeFrom, sumFrom, sumOf, updateFrom, convertTo, callFunction, callMethod, call] <;>
      exact .throw Fault.depth
  | succ n ih =>
    exact {
      eval := ih.eval_succ
      evalItems := ih.evalItems_succ
      evalComparisons := ih.evalComparisons_succ
      holdsElement := ih.holdsElement_succ
      search := ih.search_succ
      evalArguments := ih.evalArguments_succ
      assign := ih.assign_succ
      firstOf := ih.firstOf_succ
      fill := ih.fill_succ
      collect := ih.collect_succ
      resume := ih.resume_succ
      evalConditions := ih.evalConditions_succ
      next := ih.next_succ
      drain := ih.drain_succ
      elements := ih.elements_succ
      withKeys := ih.withKeys_succ
      extreme := ih.extreme_succ
      extremeFrom := ih.extremeFrom_succ
      sumFrom := ih.sumFrom_succ
      sumOf := ih.sumOf_succ
      updateFrom := ih.updateFrom_succ
      convertTo := ih.convertTo_succ
      callFunction := ih.callFunction_succ
      callMethod := ih.callMethod_succ
      call := ih.call_succ }

end Stencil
