import Stencil.Value.Basic

/-!
# Dictionaries

Entries in the order in which their keys were put in. Each entry has a place, and one that is taken
out leaves its place empty (`eraseAt`), so that an iterator over the dictionary keeps its position.
The number of places is limited. A new entry that finds none left makes the dictionary be packed
first (`add`, `pack`): empty places are dropped, and there is room for more.
-/

namespace Stencil

/-- Places, each with an entry or empty, how many places more can be taken, and whether no key has
yet been anything but a text. -/
structure Dictionary where
  places : List (Option (Value × Value))
  room : Nat
  onlyTexts : Bool

namespace Dictionary

/-- No entries, and no places. -/
def empty : Dictionary := ⟨[], 0, true⟩

/-- The entries, in the order of their places. -/
def entries (d : Dictionary) : List (Value × Value) := d.places.filterMap id

/-- How many entries there are. -/
def size (d : Dictionary) : Nat := d.entries.length

/-- How many places there are, taken or not. -/
def capacity (d : Dictionary) : Nat := d.places.length + d.room

/-- The first entry from a place on, and the place after it. -/
def entryFrom? (d : Dictionary) (place : Nat) : Option ((Value × Value) × Nat) :=
  ((d.places.zipIdx).drop place).findSome? fun (e, i) => e.map (·, i + 1)

/-! ## Packing -/

/-- How many places there are when a number is wanted: two thirds of the least power of two from it
on, where the bit of eight counts as set. -/
def placesFor (wanted : Nat) : Nat := 2 * (wanted ||| 8).nextPowerOfTwo / 3

/-- The dictionary without empty places, and with room for others. -/
def pack (d : Dictionary) (wanted : Nat) : Dictionary :=
  { d with places := d.entries.map some, room := placesFor wanted - d.size }

/-- The dictionary packed to grow to three times its size. -/
def grow (d : Dictionary) : Dictionary := d.pack (3 * d.size)

theorem entries_pack (d : Dictionary) (wanted : Nat) : (d.pack wanted).entries = d.entries := by
  simp [pack, entries, List.filterMap_map]

theorem entries_grow (d : Dictionary) : d.grow.entries = d.entries := entries_pack d _

/-! ## Changes -/

/-- The dictionary ready for a key. The first that is not a text makes it be packed. -/
def readyFor (d : Dictionary) : Value → Dictionary
  | .text _ => d
  | _ => if d.onlyTexts then { d.grow with onlyTexts := false } else d

theorem entries_readyFor (d : Dictionary) (key : Value) :
    (d.readyFor key).entries = d.entries := by
  unfold readyFor
  split
  · rfl
  · split
    · exact entries_grow d
    · rfl

/-- The dictionary with an entry added, whose key is not there yet. -/
def add (d : Dictionary) (key value : Value) : Dictionary :=
  let d := if d.room = 0 then d.grow else d
  { d with places := d.places ++ [some (key, value)], room := d.room - 1 }

theorem entries_add (d : Dictionary) (key value : Value) :
    (d.add key value).entries = d.entries ++ [(key, value)] := by
  have packed : (if d.room = 0 then d.grow else d).entries = d.entries := by
    split
    · exact entries_grow d
    · rfl
  rw [← packed]
  simp [add, entries]

/-- A dictionary with the given entries, no two of which have the same key. -/
def ofEntries (entries : List (Value × Value)) : Dictionary :=
  entries.foldl (fun d (k, v) => (d.readyFor k).add k v) empty

theorem entries_ofEntries (entries : List (Value × Value)) :
    (ofEntries entries).entries = entries := by
  have step (d : Dictionary) : (entries.foldl (fun d (k, v) => (d.readyFor k).add k v) d).entries =
      d.entries ++ entries := by
    induction entries generalizing d with
    | nil => simp
    | cons e rest ih => simp [ih, entries_add, entries_readyFor]
  exact step empty

/-- The dictionary with another value for the key at a place. -/
def setAt (d : Dictionary) (place : Nat) (value : Value) : Dictionary :=
  { d with places := d.places.modify place (Option.map fun (k, _) => (k, value)) }

/-- The dictionary without the entry at a place, which is empty from then on. -/
def eraseAt (d : Dictionary) (place : Nat) : Dictionary :=
  { d with places := d.places.set place none }

/-- Whether a dictionary without entries can become another by taking over its places: none of them
is empty, and a smaller number would not do. -/
def isTight (d : Dictionary) : Bool :=
  d.places.length = d.size && (d.capacity = placesFor 0 || d.capacity / 2 < d.size)

/-- The dictionary before all entries of another are put in. One without entries may take over the
places of the other; one with too few places is packed. -/
def readyForAll (d other : Dictionary) : Dictionary :=
  if other.size = 0 then d
  else if d.size = 0 ∧ other.isTight then other
  else if d.capacity < other.size then
    { d.pack ((3 * (d.size + other.size) + 1) / 2) with
      onlyTexts := d.onlyTexts && other.onlyTexts }
  else d

end Dictionary
end Stencil
