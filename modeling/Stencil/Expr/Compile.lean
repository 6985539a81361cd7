import Stencil.Expr.Machine

/-!
# The expression of a block

A block is read as if it stood in round brackets, so that it may go on over several lines and end in
a comment (`compile`). A name given inside a comprehension must not clash with the comprehension's
own names, and none may be given in what a comprehension ranges over. The name of a constant cannot
be given to anything, only lambdas yield, and only generators wait.
-/

namespace Stencil.Expr

/-! ## Names given inside comprehensions -/

/-- The names that an expression gives with `:=`, down to a depth; with `through` set, those given
inside lambdas too. -/
def givenNames (through : Bool) : (depth : Nat) → Expr → List Text
  | 0, _ => []
  | n + 1, e =>
    let own := match e with
      | .assign x _ => [x]
      | _ => []
    let inner : List Expr := match e with
      | .lambda parameters _ => if through then e.children else parameters.filterMap (·.2.2)
      | e => e.children
    own ++ inner.flatMap (givenNames through n)

/-- The names that occur in an expression, those inside lambdas and comprehensions apart, down to a
depth. -/
def usedNames : (depth : Nat) → Expr → List Text
  | 0, _ => []
  | n + 1, e =>
    let own := match e with
      | .name x | .assign x _ => [x]
      | _ => []
    let inner : List Expr := match e with
      | .lambda parameters _ => parameters.filterMap (·.2.2)
      | .comprehension _ _ clauses => (clauses.take 1).map (·.2.1)
      | e => e.children
    own ++ inner.flatMap (usedNames n)

/-- Whether the names given inside comprehensions are allowed, down to a depth. The names that occur
in its targets are a comprehension's own. -/
def namesAllowed : (depth : Nat) → Expr → Bool
  | 0, _ => true
  | n + 1, e =>
    let here := match e with
      | .comprehension _ _ clauses =>
        let own := clauses.flatMap fun (target, _, _) =>
          target.names ++ target.parts.flatMap (usedNames n)
        (e.children.flatMap (givenNames false n)).all (fun x => !own.contains x) &&
          clauses.all fun (_, source, _) => (givenNames true n source).isEmpty
      | _ => true
    here && e.children.all (namesAllowed n)

/-! ## Names that cannot be bound -/

mutual

/-- Whether a target changes what the name of the constant stands for. -/
def Target.isConstant : Target → Bool
  | .name x | .attribute _ x => x = debugName
  | .subscript _ _ => false
  | .rest t | .awaited t => t.isConstant
  | .sequence ts => Target.anyConstant ts

/-- Whether one of several targets does. -/
def Target.anyConstant : List Target → Bool
  | [] => false
  | t :: ts => t.isConstant || Target.anyConstant ts

end

/-- Whether no part of an expression gives the name of the constant to something else, down to a
depth. -/
def constantKept : (depth : Nat) → Expr → Bool
  | 0, _ => true
  | n + 1, e =>
    let here := match e with
      | .assign x _ => x ≠ debugName
      | .lambda parameters _ => parameters.all (·.2.1 ≠ debugName)
      | .call _ arguments => arguments.all (·.1 ≠ .named debugName)
      | .comprehension _ _ clauses => clauses.all fun (target, _, _) => !target.isConstant
      | _ => true
    here && e.children.all (constantKept n)

/-! ## What lambdas yield -/

/-- Whether an expression yields in lambdas only, and not in comprehensions inside them, except in
what the first clause ranges over; down to a depth. -/
def yieldsInLambdas : (depth : Nat) → (inLambda : Bool) → Expr → Bool
  | 0, _, _ => true
  | n + 1, inLambda, e =>
    match e with
    | .yield _ e => inLambda && e.toList.all (yieldsInLambdas n inLambda)
    | .lambda parameters body =>
      (parameters.filterMap (·.2.2)).all (yieldsInLambdas n inLambda) &&
        yieldsInLambdas n true body
    | .comprehension _ (key, value) clauses =>
      let inner := clauses.flatMap (fun (target, _, conditions) => target.parts ++ conditions) ++
        (clauses.drop 1).map (·.2.1)
      (clauses.take 1).all (fun (_, source, _) => yieldsInLambdas n inLambda source) &&
        (key :: value.toList ++ inner).all (yieldsInLambdas n false)
    | e => e.children.all (yieldsInLambdas n inLambda)

/-! ## What generators wait for -/

/-- Whether the clause of a target waits for each element. -/
def Target.isAwaited : Target → Bool
  | .awaited _ => true
  | _ => false

/-- Whether something is waited for in an expression itself, down to a depth. What a lambda waits
for is its own matter, and so is what a generator waits for, except for what its first clause ranges
over; another comprehension that waits makes wait what it stands in. -/
def waits : (depth : Nat) → Expr → Bool
  | 0, _ => false
  | n + 1, e =>
    match e with
    | .await _ => true
    | .lambda parameters _ => (parameters.filterMap (·.2.2)).any (waits n)
    | .comprehension kind _ clauses =>
      clauses.any (fun (target, _, _) => kind ≠ .generator && target.isAwaited) ||
        (if kind = .generator then (clauses.take 1).map (·.2.1) else e.children).any (waits n)
    | e => e.children.any (waits n)

/-- Whether a comprehension waits for anything but what its first clause ranges over, down to a
depth. -/
def suspends (depth : Nat) (element : Expr × Option Expr)
    (clauses : List (Target × Expr × List Expr)) : Bool :=
  let inner := clauses.flatMap (fun (target, _, conditions) => target.parts ++ conditions) ++
    (clauses.drop 1).map (·.2.1)
  clauses.any (·.1.isAwaited) || (element.1 :: element.2.toList ++ inner).any (waits depth)

/-- The most clauses of a comprehension that can wait for their elements. -/
def maxAwaited : Nat := 20

/-- Whether an expression waits in generators only, and in what stands in them, but not in lambdas
there; down to a depth. -/
def waitsInGenerators : (depth : Nat) → (inside : Bool) → Expr → Bool
  | 0, _, _ => true
  | n + 1, inside, e =>
    match e with
    | .await e => inside && waitsInGenerators n inside e
    | .lambda parameters body =>
      (parameters.filterMap (·.2.2)).all (waitsInGenerators n inside) &&
        waitsInGenerators n false body
    | .comprehension kind (key, value) clauses =>
      let inner := clauses.flatMap (fun (target, _, conditions) => target.parts ++ conditions) ++
        (clauses.drop 1).map (·.2.1)
      (kind = .generator || inside || !suspends n (key, value) clauses) &&
        (clauses.filter (·.1.isAwaited)).length ≤ maxAwaited &&
        (clauses.take 1).all (fun (_, source, _) => waitsInGenerators n inside source) &&
        (key :: value.toList ++ inner).all (waitsInGenerators n true)
    | e => e.children.all (waitsInGenerators n inside)

/-! ## Sources -/

/-- Why a text is not read as an expression: a null character is refused before anything else is
read, and the machine can give up a source that is too large for it. -/
inductive SourceError
  | nullCharacter
  | exhausted (cause : Exhaustion)
  | invalid
  deriving DecidableEq, Repr

/-- Whether an expression keeps to the rules that go beyond its grammar, down to a depth. -/
def isAllowed (depth : Nat) (e : Expr) : Bool :=
  namesAllowed depth e && constantKept depth e && yieldsInLambdas depth false e &&
    waitsInGenerators depth false e

/-- The expression of a block. -/
def compile (m : Machine) (text : Text) : Except SourceError Expr :=
  if text.contains '\x00' then .error .nullCharacter
  else
    match m.refusal? text with
    | some cause => .error (.exhausted cause)
    | none =>
      let fuel := parseFuel text.length
      match (tokens? (source text)).bind (expressions? m.character? fuel) with
      | some (e, []) => if isAllowed fuel e then .ok e else .error .invalid
      | _ => .error .invalid

/-- Whether a block is an expression. That a source cannot be read at all is an error of its own. -/
def isExpression (m : Machine) (text : Text) : Except SourceError Bool :=
  match compile m text with
  | .ok _ => .ok true
  | .error .invalid => .ok false
  | .error e => .error e

end Stencil.Expr
