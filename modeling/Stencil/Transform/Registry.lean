import Stencil.Transform.Symbols
import Stencil.Render.Options

/-!
# Transformers by name

A registry finds transformers by their names: those that are built in, those of plugins, and those
that a caller has registered, which take precedence. What is built in and what plugins offer is
only looked for when it is first needed, and again after the registry has been cleared.
-/

namespace Stencil

/-- A class of transformers: what making one without arguments comes to in a store. That may be an
error, as classes can lack methods or ask for arguments. -/
structure TransformerClass where
  make : Store → Except Fault Transformer

/-- The class whose transformers are all alike. -/
def TransformerClass.of (t : Transformer) : TransformerClass := ⟨fun _ => .ok t⟩

/-- Classes of transformers under names. Of several under one name the first counts. -/
abbrev TransformerTable := List (Text × TransformerClass)

/-- The classes that are always there. -/
def builtInTransformers : TransformerTable := [
  ("identity".toList, .of .identity),
  ("collapse".toList, .of (.collapse .standard .identity)),
  ("color".toList, .of (.color none (some "truecolor".toList))),
  ("lookup".toList, .of (.lookup symbolTable .star [])),
  ("safely".toList, .of (.safely (.value .none) .identity)),
  ("shell".toList, .of (.shell .sh .identity)),
  ("sprintf".toList, .of (.sprintf .identity)),
  ("vv".toList, .of (.showing none .identity))]

/-- What is given to be registered: a class of transformers, or anything else, by what writing it as
a text comes to. -/
inductive Candidate
  | transformers (c : TransformerClass)
  | other (shown : Except Fault Text)

/-- What a plugin offers under its name: nothing if it is broken, and else something that counts
only if it is a class of transformers. -/
abbrev Plugin := Text × Option Candidate

namespace TransformerTable

/-- A table with one more entry, unless the name is taken. -/
def offer (t : TransformerTable) (e : Text × TransformerClass) : TransformerTable :=
  if (t.lookup e.1).isSome then t else t ++ [e]

/-- The names of a table in order, each once. -/
def names (t : TransformerTable) : List Text :=
  (t.map (·.1)).eraseDups.mergeSort fun a b => (compare a b).isLE

/-- The refusal of a name that is not among the available ones, which may itself be what has no
text. -/
def refusal (s : Store) (available : List Text) (name : Value) : Problem :=
  match s.text name with
  | .ok shown => .transformer (.unknownName shown available)
  | .error f => .fault f

/-- A new transformer of the class with a name. All names in a table are texts, but what is asked
for may be any value; one that is not fit for a key is refused as such. -/
def make (s : Store) (t : TransformerTable) (name : Value) : Except Problem Transformer := do
  (Store.checkKey name).mapError .fault
  match name.text?.bind fun x => t.lookup x with
  | some c => (c.make s).mapError .fault
  | none => .error (refusal s t.names name)

end TransformerTable

/-- Transformers by name: the plugins that are installed, the classes known so far, and whether
built-in classes and plugins have been looked for since the registry was last cleared. -/
structure Registry where
  plugins : List Plugin
  known : TransformerTable
  discovered : Bool

namespace Registry

/-- A registry that has not been used yet. -/
def fresh (plugins : List Plugin) : Registry := ⟨plugins, [], false⟩

/-- The plugin for queries, which is always installed. -/
def sqlPlugin : Plugin := ("sql".toList, some (.transformers (.of (.sql .standard))))

/-- The registry with nothing but what is always installed. -/
def installed : Registry := fresh [sqlPlugin]

/-- The classes of transformers that plugins offer. -/
def offered (r : Registry) : TransformerTable :=
  r.plugins.filterMap fun
    | (name, some (.transformers c)) => some (name, c)
    | _ => none

/-- The registry once it has looked for transformers. Names that are taken stay as they are, and
built-in classes come before those of plugins. -/
def discover (r : Registry) : Registry :=
  if r.discovered then r
  else { r with
    known := (builtInTransformers ++ r.offered).foldl .offer r.known
    discovered := true }

/-- A new transformer of the class with a name, and the registry afterwards. -/
def get (s : Store) (r : Registry) (name : Value) : Except Problem Transformer × Registry :=
  let r := r.discover
  (TransformerTable.make s r.known name, r)

/-- The names of all transformers in order, and the registry afterwards. -/
def list (r : Registry) : List Text × Registry :=
  let r := r.discover
  (TransformerTable.names r.known, r)

/-- Registers a class of transformers under a name; nothing else can be. -/
def register (r : Registry) (name : Text) : Candidate → Except Problem Unit × Registry
  | .transformers c =>
    let r := r.discover
    (.ok (), { r with known := (name, c) :: r.known })
  | .other (.ok shown) => (.error (.notTransformer shown), r)
  | .other (.error f) => (.error (.fault f), r)

/-- The registry without what it knows. It looks for transformers again when it is next used. -/
def clear (r : Registry) : Registry := { r with known := [], discovered := false }

/-! ## Requests -/

/-- What can be asked of a registry, and the store in which a transformer is asked for. -/
inductive Request
  | register (name : Text) (candidate : Candidate)
  | get (s : Store) (name : Value)
  | list
  | clear

/-- What a registry answers. -/
inductive Answer
  | done
  | transformer (t : Transformer)
  | names (names : List Text)
  | failed (p : Problem)

/-- The answer that a result stands for. -/
def Answer.ofResult {α : Type} (answer : α → Answer) : Except Problem α → Answer
  | .ok a => answer a
  | .error p => .failed p

/-- The answer to a request, and the registry afterwards. -/
def answer (r : Registry) : Request → Answer × Registry
  | .register name candidate =>
    let (result, r) := r.register name candidate
    (.ofResult (fun _ => .done) result, r)
  | .get s name =>
    let (result, r) := r.get s name
    (.ofResult .transformer result, r)
  | .list =>
    let (names, r) := r.list
    (.names names, r)
  | .clear => (.done, r.clear)

/-- The registry after requests. -/
def after (r : Registry) (requests : List Request) : Registry :=
  requests.foldl (fun r q => (r.answer q).2) r

/-! ## Given transformers -/

/-- The transformer that something given stands for; one that is known by its name or is given
itself is adapted to a layout if there is one. -/
def resolve (s : Store) (r : Registry) (l : Option Layout) (g : Given) :
    Except Problem Transformer :=
  let adapt (t : Transformer) : Transformer := (l.map t.adapted).getD t
  match g with
  | .transformer t => .ok (adapt t)
  | .value .none => .ok .identity
  | .value v =>
    match v.text? with
    | some _ => (r.get s v).1.map adapt
    | none =>
      if v.isCallable then .ok (.callable v)
      else match s.quoted v with
        | .ok shown => .error (.transformer (.notCallable shown))
        | .error f => .error (.fault f)

end Registry
end Stencil
