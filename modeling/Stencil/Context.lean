import Stencil.Evaluation.Scope

/-!
# Contexts

A context is layers of names: the names given along with it, the columns of data, and scopes from
the innermost to the outermost. The first layer that has a name decides what it stands for. A scope
may be a dictionary in the store, which is looked at as it then is, or a mapping that a caller has
made, which may find names that it does not list.
-/

namespace Stencil

/-! ## Tables -/

/-- Names with their values. -/
abbrev Table := List (Text × Value)

/-- A table with a name standing for a value; a name that is there keeps its place. -/
def Table.put : Table → Text → Value → Table
  | [], x, v => [(x, v)]
  | (y, w) :: t, x, v => if y = x then (y, v) :: t else (y, w) :: put t x v

/-- A table with the names of another laid over it. -/
def Table.overlay (t top : Table) : Table := top.foldl (fun t (x, v) => t.put x v) t

theorem Table.lookup_put (t : Table) (x y : Text) (v : Value) :
    (t.put x v).lookup y = if y = x then some v else t.lookup y := by
  induction t with
  | nil =>
    by_cases h : y = x
    · simp [put, h]
    · simp [put, List.lookup_cons, h, beq_eq_false_iff_ne.2 h]
  | cons e t ih =>
    obtain ⟨z, w⟩ := e
    by_cases hz : z = x
    · subst hz
      by_cases hy : y = z
      · simp [put, hy]
      · simp [put, List.lookup_cons, hy, beq_eq_false_iff_ne.2 hy]
    · by_cases hy : y = z
      · subst hy; simp [put, hz]
      · simp [put, List.lookup_cons, hz, ih, beq_eq_false_iff_ne.2 hy]

/-! ## Contexts -/

/-- A mapping that a caller has made: the keys that it lists and what it finds under a key, in a
store. What it lists is found; under other keys it may find something too, such as a default. Where
a mapping keeps a default that it has given, it lists the key in later stores. -/
structure Mapping where
  keys : Store → List Text
  find? : Store → Text → Option Value
  found {s : Store} {x : Text} (h : x ∈ keys s) : (find? s x).isSome = true

/-- What a mapping has under the keys that it lists. -/
def Mapping.table (s : Store) (m : Mapping) : Table :=
  (m.keys s).filterMap fun x => (m.find? s x).map (x, ·)

/-- A scope that a context looks names up in: names that never change, a dictionary, or a mapping
that a caller has made. -/
inductive Layer
  | fixed (table : Table)
  | live (dict : Ref)
  | mapping (m : Mapping)

/-- Layers of names: those given along with the context, the columns of its data, and its scopes
from the innermost on. -/
structure Context where
  names : Table
  data : Table
  scopes : List Layer

/-- The context without names. -/
def Context.empty : Context := ⟨[], [], []⟩

/-- The names of a dictionary. Keys that are not texts name nothing. -/
def Store.table (s : Store) (r : Ref) : Table :=
  (s.entries r).filterMap fun (k, v) => k.text?.map (·, v)

/-- The names that a scope now lists. -/
def Layer.keys (s : Store) : Layer → List Text
  | fixed t => t.map (·.1)
  | live r => (s.table r).map (·.1)
  | mapping m => m.keys s

/-- What a scope now finds under a name. -/
def Layer.find? (s : Store) : Layer → Text → Option Value
  | fixed t, x => t.lookup x
  | live r, x => (s.table r).lookup x
  | mapping m, x => m.find? s x

namespace Context

/-- The layers of a context, the deciding ones first. -/
def layers (c : Context) : List Layer := .fixed c.names :: .fixed c.data :: c.scopes

/-- What a name stands for. -/
def lookup (s : Store) (c : Context) (x : Text) : Option Value :=
  c.layers.findSome? fun l => l.find? s x

/-- The names of a context, each once: those that the outermost layer lists, then what each layer in
front of it adds. -/
def keys (s : Store) (c : Context) : List Text :=
  (c.layers.reverse.flatMap (Layer.keys s)).eraseDups

/-- The names of a context with what they stand for. -/
def flatten (s : Store) (c : Context) : Table :=
  (c.keys s).filterMap fun x => (c.lookup s x).map (x, ·)

/-- A context with names laid over those given along with it. -/
def withNames (c : Context) (names : Table) : Context :=
  { c with names := Table.overlay c.names names }

/-- The name that no variable can have, as binding takes it for itself. -/
def bindingParameter : Text := "self".toList

/-- A context with further variables given along with it, unless one has the name that binding takes
for itself; that name is the error. -/
def bind (c : Context) (names : Table) : Except Text Context :=
  if bindingParameter ∈ names.map (·.1) then .error bindingParameter else .ok (c.withNames names)

theorem bind_eq_ok_iff {c bound : Context} {names : Table} :
    c.bind names = .ok bound ↔
      bindingParameter ∉ names.map (·.1) ∧ c.withNames names = bound := by
  unfold bind
  split <;> simp_all

/-- A context with other columns of data. -/
def withData (c : Context) (columns : Table) : Context := { c with data := columns }

/-- A context that keeps what its names now stand for. -/
def freeze (s : Store) (c : Context) : Context := ⟨[], [], [.fixed (c.flatten s)]⟩

/-- The names that an expression sees: those of the context, and the built-in ones unless the
context has names in their place. -/
def visible (s : Store) (c : Context) : Table :=
  let names := c.flatten s
  if (names.lookup builtinsName).isSome then names else names ++ [(builtinsName, .builtins)]

end Context

/-! ## Values as contexts -/

/-- Why a value cannot be used as names or as data; its type is named. -/
inductive ContextError
  | notNames (typeName : String)
  | notColumns (typeName : String)
  deriving DecidableEq, Repr

/-- What is wrong with a value used as names or as data, in words. -/
def ContextError.message : ContextError → String
  | notNames t => "Context must be a mapping or BindingContext, got " ++ t
  | notColumns t => "Data layer must be a mapping of columns, got " ++ t

/-- What a caller gives as a context: nothing, a context, or a value with names. -/
inductive ContextSource
  | nothing
  | context (c : Context)
  | value (v : Value)

/-- The context that a caller's argument stands for. -/
def ContextSource.toContext : ContextSource → Except ContextError Context
  | nothing => .ok .empty
  | context c => .ok c
  | value .none => .ok .empty
  | value (.dict r) => .ok ⟨[], [], [.live r]⟩
  | value v => .error (.notNames v.typeName)

/-- The columns that a value has: none for nothing, and those of a frame under the texts of their
keys. -/
def Store.columns (s : Store) (v : Value) : Except ContextError Table :=
  match v with
  | .none => .ok []
  | .dict r => .ok (s.table r)
  | .frame r =>
    .ok (Table.overlay [] ((s.entries r).filterMap fun (k, v) => (s.text k).toOption.map (·, v)))
  | v => .error (.notColumns v.typeName)

end Stencil
