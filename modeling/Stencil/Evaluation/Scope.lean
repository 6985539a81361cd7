import Stencil.Evaluation.Builtin
import Stencil.Evaluation.Operation
import Stencil.Expr.Compile

/-!
# Names during an evaluation

What names stand for while an expression is evaluated: the variables of comprehensions and lambdas
first, then the names that the expression is given, then those that are built in.
-/

namespace Stencil

/-- The name under which the built-in names can be replaced. -/
def builtinsName : Text := "__builtins__".toList

/-- What a name that is built in stands for, where those names may have been replaced. -/
def lookupBuiltin (provided : Value) (x : Text) : Run Fault Value :=
  match provided with
  | .builtins =>
    match builtinValue? (String.ofList x) with
    | some v => return v
    | none => throw (.unbound x)
  | v => tryCatch (subscript v (.text x)) fun
    | .key _ => throw (.unbound x)
    | fault => throw fault

/-- What a name stands for. -/
def lookupName (scope : Scope) (x : Text) : Run Fault Value := do
  let s ← get
  match scope.own.lookup x, scope.outer.lookup x with
  | some r, _ =>
    match s.cells[r]? with
    | some (.variable (some v)) => return v
    | _ => throw (.unassigned x)
  | none, some r =>
    match s.cells[r]? with
    | some (.variable (some v)) => return v
    | _ => throw (.unassignedOutside x)
  | none, none =>
    let names := s.entries scope.names
    match ← Run.ofExcept (s.lookup names (.text x)) with
    | some v => return v
    | none => do
      let provided ← Run.ofExcept (s.lookup names (.text builtinsName))
      lookupBuiltin (provided.getD .builtins) x

/-- Makes a name stand for a value. -/
def assignName (scope : Scope) (x : Text) (v : Value) : Run Fault Unit :=
  match (scope.own ++ scope.outer).lookup x with
  | some r => Run.replace r (.variable (some v))
  | none => putEntries scope.names [(.text x, v)]

/-- The scope inside a comprehension or lambda with the given variables, which have no values
yet. -/
def Scope.enter (scope : Scope) (names : List Text) : Run Fault Scope := do
  let fresh ← names.eraseDups.mapM fun x => do
    return (x, ← Run.alloc (.variable none))
  return { scope with own := fresh, outer := scope.own ++ scope.outer }

/-- The values that the parameters of a lambda take from arguments. -/
def bindParameters : List (Expr.ParameterKind × Text × Option Value) → Arguments →
    Run Fault (List (Text × Value))
  | [], ⟨[], []⟩ => return []
  | [], _ => wrongArguments "<lambda>"
  | (.rest, x, _) :: ps, a => do
    return (x, .tuple a.positional) :: (← bindParameters ps { a with positional := [] })
  | (.restNamed, x, _) :: ps, a => do
    let d ← Run.newDict (a.named.map fun (k, v) => (.text k, v))
    return (x, .dict d) :: (← bindParameters ps { a with named := [] })
  | (kind, x, default) :: ps, a =>
    match kind, a.positional, a.named.lookup x, default with
    | .plain, v :: rest, none, _ => do
      return (x, v) :: (← bindParameters ps { a with positional := rest })
    | .plain, _ :: _, some _, _ => wrongArguments "<lambda>"
    | _, _, some v, _ => do
      return (x, v) :: (← bindParameters ps { a with named := a.named.filter (·.1 ≠ x) })
    | _, _, none, some v => do return (x, v) :: (← bindParameters ps a)
    | _, _, none, none => wrongArguments "<lambda>"

end Stencil
