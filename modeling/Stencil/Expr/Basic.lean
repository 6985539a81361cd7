import Stencil.Text.Basic

/-!
# Expressions

The expressions that blocks hold: constants, displays, operators, comprehensions and calls.
-/

namespace Stencil.Expr

/-- The values that an expression can spell out. -/
inductive Constant
  | none
  | ellipsis
  | bool (b : Bool)
  | int (i : Int)
  | float (x : Float)
  | imaginary (x : Float)
  | text (s : Text)
  | bytes (s : List UInt8)
  deriving DecidableEq

inductive UnaryOp
  | plus
  | minus
  | invert
  | not
  deriving DecidableEq, Repr

inductive BinaryOp
  | bitOr
  | bitXor
  | bitAnd
  | shiftLeft
  | shiftRight
  | add
  | sub
  | mul
  | matMul
  | div
  | floorDiv
  | mod
  | pow
  deriving DecidableEq, Repr

inductive CompareOp
  | lt
  | le
  | gt
  | ge
  | eq
  | ne
  | isIn
  | notIn
  | is
  | isNot
  deriving DecidableEq, Repr

/-- What the elements of a comprehension are collected into. -/
inductive CollectKind
  | list
  | set
  | dict
  | generator
  deriving DecidableEq, Repr

/-- How an argument reaches its parameter: by position, by name, as the elements of a sequence, or
as the entries of a dictionary. -/
inductive ArgumentKind
  | positional
  | named (name : Text)
  | unpacked
  | unpackedNamed
  deriving DecidableEq, Repr

/-- How a parameter of a lambda takes its argument. -/
inductive ParameterKind
  | plain
  | namedOnly
  | rest
  | restNamed
  deriving DecidableEq, Repr

mutual

/-- What a comprehension assigns each element to: a name, a member or an element of a value, or
several targets that share the elements, of which one takes the rest. A target is awaited where its
clause waits for each element. -/
inductive Target
  | name (n : Text)
  | attribute (e : Expr) (name : Text)
  | subscript (e index : Expr)
  | rest (target : Target)
  | sequence (targets : List Target)
  | awaited (target : Target)

/-- An expression. A dictionary display holds its entries as pairs of key and value, without a key
where a whole dictionary is unpacked; the clauses of a comprehension are a target, what it ranges
over, and its conditions. A field is a value inside a format string. What a lambda yields is the
value of an expression, or all elements of it. -/
inductive Expr
  | constant (c : Constant)
  | name (n : Text)
  | format (parts : List Expr)
  | field (value : Expr) (conversion : Option Char) (spec : List Expr)
  | tuple (items : List Expr)
  | list (items : List Expr)
  | set (items : List Expr)
  | dict (entries : List (Option Expr × Expr))
  | starred (e : Expr)
  | await (e : Expr)
  | unary (op : UnaryOp) (e : Expr)
  | binary (op : BinaryOp) (left right : Expr)
  | and (left right : Expr)
  | or (left right : Expr)
  | compare (first : Expr) (rest : List (CompareOp × Expr))
  | conditional (test yes no : Expr)
  | assign (name : Text) (value : Expr)
  | lambda (parameters : List (ParameterKind × Text × Option Expr)) (body : Expr)
  | yield (all : Bool) (e : Option Expr)
  | attribute (e : Expr) (name : Text)
  | subscript (e index : Expr)
  | slice (start stop step : Option Expr)
  | call (function : Expr) (arguments : List (ArgumentKind × Expr))
  | comprehension (kind : CollectKind) (element : Expr × Option Expr)
      (clauses : List (Target × Expr × List Expr))

end

mutual

/-- The names that a target assigns. -/
def Target.names : Target → List Text
  | .name x => [x]
  | .attribute _ _ | .subscript _ _ => []
  | .rest t | .awaited t => t.names
  | .sequence ts => Target.namesOfAll ts

/-- The names that several targets assign. -/
def Target.namesOfAll : List Target → List Text
  | [] => []
  | t :: ts => t.names ++ Target.namesOfAll ts

end

mutual

/-- The expressions in a target. -/
def Target.parts : Target → List Expr
  | .name _ => []
  | .attribute e _ => [e]
  | .subscript e index => [e, index]
  | .rest t | .awaited t => t.parts
  | .sequence ts => Target.partsOfAll ts

/-- The expressions in several targets. -/
def Target.partsOfAll : List Target → List Expr
  | [] => []
  | t :: ts => t.parts ++ Target.partsOfAll ts

end

/-- The expressions that an expression is made of. -/
def Expr.children : Expr → List Expr
  | .constant _ | .name _ => []
  | .format parts => parts
  | .field value _ spec => value :: spec
  | .tuple items | .list items | .set items => items
  | .dict entries => entries.flatMap fun (k, v) => k.toList ++ [v]
  | .starred e | .await e | .unary _ e | .assign _ e | .attribute e _ => [e]
  | .binary _ l r | .and l r | .or l r | .subscript l r => [l, r]
  | .compare first rest => first :: rest.map (·.2)
  | .conditional test yes no => [test, yes, no]
  | .lambda parameters body => parameters.filterMap (·.2.2) ++ [body]
  | .slice start stop step => [start, stop, step].filterMap id
  | .call function arguments => function :: arguments.map (·.2)
  | .yield _ e => e.toList
  | .comprehension _ (key, value) clauses =>
    key :: value.toList ++ clauses.flatMap fun (target, source, conditions) =>
      target.parts ++ source :: conditions

instance : Inhabited Expr := ⟨.constant .none⟩

end Stencil.Expr
