import Stencil.Text.Basic

/-!
# Configuration documents

A document is a table of items. While it is read, its tables remember how they came to be, because
that decides whether a later section or key may add to them (`Mark`): a table with a section of its
own is complete when another section starts, and so is one that dotted keys have filled.
-/

namespace Stencil.Toml

/-- A value in a document. Dates and times are kept as written. -/
inductive Item
  | text (s : Text)
  | bool (b : Bool)
  | int (i : Int)
  | float (x : Float)
  | moment (written : Text)
  | array (items : List Item)
  | table (entries : List (Text × Item))

/-- How a table came to be: on the way to another one, by a section header, or by dotted keys in a
numbered section. -/
inductive Mark
  | passed
  | header
  | dotted (sectionNumber : Nat)
  deriving DecidableEq, Repr

/-- Whether a table is complete in a section: it has had a header, or keys in another section. -/
def Mark.isComplete (now : Nat) : Mark → Bool
  | passed => false
  | header => true
  | dotted n => n < now

/-- A part of a document that is being read: a finished item, a table, or the tables of a repeated
section, of which the last is being filled. -/
inductive Node
  | leaf (item : Item)
  | table (mark : Mark) (entries : List (Text × Node))
  | tables (earlier : List (List (Text × Node))) (last : List (Text × Node))

/-- The entries of a table that is being read. -/
abbrev Entries := List (Text × Node)

mutual

/-- A node as an item. -/
def Node.item : Node → Item
  | .leaf item => item
  | .table _ entries => .table (itemsOf entries)
  | .tables earlier last => .array (tablesOf earlier ++ [.table (itemsOf last)])

/-- Entries with their nodes as items. -/
def itemsOf : List (Text × Node) → List (Text × Item)
  | [] => []
  | (k, n) :: rest => (k, n.item) :: itemsOf rest

/-- Entries of several tables as items. -/
def tablesOf : List (List (Text × Node)) → List Item
  | [] => []
  | t :: rest => .table (itemsOf t) :: tablesOf rest

end

/-! ## Additions -/

/-- Entries in which `f` makes the node under a key out of the one that was there. -/
def alter (f : Option Node → Option Node) (k : Text) : Entries → Option Entries
  | [] => (f none).map fun n => [(k, n)]
  | (x, n) :: rest =>
    if x = k then (f (some n)).map fun n => (x, n) :: rest
    else (alter f k rest).map ((x, n) :: ·)

/-- Entries in which `f` makes the node at the end of a path. Tables on the way are made as needed,
and of repeated sections the path takes the last. -/
def alterPath (f : Option Node → Option Node) : List Text → Entries → Option Entries
  | [], _ => none
  | [k], entries => alter f k entries
  | k :: path, entries =>
    alter
      (fun
        | none => (alterPath f path []).map (.table .passed)
        | some (.table mark inner) => (alterPath f path inner).map (.table mark)
        | some (.tables earlier last) => (alterPath f path last).map (.tables earlier)
        | some (.leaf _) => none)
      k entries

/-- Opens the table of a section header. -/
def openTable (now : Nat) (path : List Text) (root : Entries) : Option Entries :=
  alterPath
    (fun
      | none => some (.table .header [])
      | some (.table mark entries) =>
        if mark.isComplete now then none else some (.table .header entries)
      | some _ => none)
    path root

/-- Adds a table for the header of a repeated section. -/
def appendTable (path : List Text) (root : Entries) : Option Entries :=
  alterPath
    (fun
      | none => some (.tables [] [])
      | some (.tables earlier last) => some (.tables (earlier ++ [last]) [])
      | some _ => none)
    path root

/-- Adds an item under a dotted key, which must be new. The tables on the way must not be
complete. -/
def insertItem (now : Nat) (item : Item) : List Text → Entries → Option Entries
  | [], _ => none
  | [k], entries =>
    alter (fun old => if old.isNone then some (.leaf item) else none) k entries
  | k :: path, entries =>
    alter
      (fun
        | none => (insertItem now item path []).map (.table (.dotted now))
        | some (.table mark inner) =>
          if mark.isComplete now then none
          else (insertItem now item path inner).map (.table (.dotted now))
        | some _ => none)
      k entries

/-- Adds an item under a key in the section with the given header. -/
def insertUnder (now : Nat) (header key : List Text) (item : Item) (root : Entries) :
    Option Entries :=
  if header = [] then insertItem now item key root
  else
    alterPath
      (fun
        | some (.table mark entries) => (insertItem now item key entries).map (.table mark)
        | some (.tables earlier last) => (insertItem now item key last).map (.tables earlier)
        | _ => none)
      header root

end Stencil.Toml
