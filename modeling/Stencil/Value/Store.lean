import Stencil.Expr.Machine
import Stencil.Rows.Broadcast
import Stencil.Value.Dictionary

/-!
# The store

Holds what values refer to, the notices given so far, and the machine that expressions are read on.
A computation on values takes a store along, and what it changed stays changed if it fails.
-/

namespace Stencil

/-- What a generator goes through: the element and clauses of a comprehension, and what they see. -/
structure GeneratorBody where
  element : Expr.Expr × Option Expr.Expr
  clauses : List (Expr.Target × Expr.Expr × List Expr.Expr)
  scope : Scope

/-- What an iterator still has to give: values, the rest of a list or dictionary as it then is, the
columns of a frame under the numbers from one on, the rest of a range, or the elements of a
generator, of whose clauses the iterators in progress are kept, the innermost first. A dictionary is
gone through by its places; it must keep the size that it had at first, and gives no more entries
than that. A generator that is at work on an element is busy. -/
inductive Source
  | values (rest : List Value)
  | items (list : Ref) (next : Nat)
  | entries (dict : Ref) (kind : ViewKind) (next size given : Nat)
  | columns (frame : Ref) (next : Nat)
  | range (next stop step : Int)
  | generator (body : GeneratorBody) (active : List Ref)
  | busy

/-- Something in the store. -/
inductive Cell
  | list (items : List Value)
  | dict (content : Dictionary)
  | iterator (source : Source)
  | counter (calls : Nat)
  | variable (value : Option Value)

/-- All that can change while values are computed: what is stored, the notices, and how many marks
have been given. The machine stays the same. -/
structure Store where
  cells : Array Cell
  notices : List UnevenLengths
  marks : Nat
  machine : Expr.Machine

/-- Nothing stored and no notices. -/
def Store.empty : Store := ⟨#[], [], 0, .standard⟩

namespace Store

/-- The elements of a list. -/
def items (s : Store) (r : Ref) : List Value :=
  match s.cells[r]? with
  | some (.list items) => items
  | _ => []

/-- A dictionary as it now is. -/
def dictionary (s : Store) (r : Ref) : Dictionary :=
  match s.cells[r]? with
  | some (.dict content) => content
  | _ => .empty

/-- The entries of a dictionary, in the order of insertion. -/
def entries (s : Store) (r : Ref) : List (Value × Value) := (s.dictionary r).entries

/-- The store with something more in it. -/
def push (s : Store) (c : Cell) : Store := { s with cells := s.cells.push c }

/-- The store with what is at a place replaced. -/
def set (s : Store) (r : Ref) (c : Cell) : Store := { s with cells := s.cells.setIfInBounds r c }

end Store

/-! ## Computations -/

/-- A computation that takes a store along and may fail. -/
abbrev Run (ε α : Type) := ExceptT ε (StateM Store) α

namespace Run

variable {ε : Type}

/-- Puts something into the store. -/
def alloc (c : Cell) : Run ε Ref := do
  let s ← get
  set (s.push c)
  return s.cells.size

/-- Replaces what is at a place. -/
def replace (r : Ref) (c : Cell) : Run ε Unit := modify (·.set r c)

/-- A new list. -/
def newList (items : List Value) : Run ε Value := do return .list (← alloc (.list items))

/-- A new dictionary with the given entries, no two of which have the same key. -/
def newDict (entries : List (Value × Value)) : Run ε Ref := alloc (.dict (.ofEntries entries))

/-- A new iterator. -/
def newIterator (source : Source) : Run ε Ref := alloc (.iterator source)

/-- A mark that no value has yet. -/
def mark : Run ε Nat := do
  let s ← get
  set { s with marks := s.marks + 1 }
  return s.marks + 1

/-- A number that is created: one that is not a number gets a mark of its own. -/
def marked (v : Value) : Run ε Value :=
  match v with
  | .float x _ => do
    if Number.isNaN x then return .float x (← mark) else return .float x 0
  | .decimal (.nan negative signaling payload) _ => do
    return .decimal (.nan negative signaling payload) (← mark)
  | v => return v

/-- Gives notice of uneven lengths. -/
def notice (u : UnevenLengths) : Run ε Unit :=
  modify fun s => { s with notices := s.notices ++ [u] }

/-- The result of a computation that cannot change the store. -/
def ofExcept {α : Type} (r : Except ε α) : Run ε α := fun s => pure (r, s)

/-- A computation with its failures put in other words. -/
def mapError {ε' α : Type} (f : ε → ε') (c : Run ε α) : Run ε' α := fun s =>
  let (r, s) := c s
  pure (r.mapError f, s)

end Run
end Stencil
