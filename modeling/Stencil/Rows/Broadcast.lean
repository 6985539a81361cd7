import Stencil.Number.Text

/-!
# Rows from vectors

How many rows a template has whose blocks hold vectors of the given lengths (`rowCount`), and the
rows themselves (`recycle`). A single element goes with any number of rows, and a vector without
elements leaves no rows at all; otherwise shorter vectors start over until all end together. Lengths
may be any integers, though those of vectors are never negative.
-/

namespace Stencil

/-- What happens to vectors of different lengths: the shorter ones start over, or all must be
equally long. -/
inductive BroadcastPolicy
  | recycle
  | strict
  deriving DecidableEq, Repr

/-- Two lengths of which the longer is no multiple of the shorter. -/
structure UnevenLengths where
  shorter : Int
  longer : Int
  deriving DecidableEq, Repr

/-- The notice about two uneven lengths. -/
def UnevenLengths.message (u : UnevenLengths) : String :=
  s!"Vector lengths {u.shorter} and {u.longer} are not multiples of each other; " ++
    "shorter vectors are recycled"

/-- Lengths that cannot be combined, in order. -/
structure BroadcastError where
  lengths : List Int
  deriving DecidableEq, Repr

/-- What is wrong with the lengths, in words. -/
def BroadcastError.message (e : BroadcastError) : String :=
  "Vector lengths [" ++ String.intercalate ", " (e.lengths.map toString) ++
    s!"] cannot be broadcast: each must be 1 or {e.lengths.getLast?.getD 1}"

/-- The different lengths other than one, in order. -/
def vectorLengths (lengths : List Int) : List Int :=
  (lengths.filter (· ≠ 1)).eraseDups.mergeSort

/-- The first two lengths of which the later is no multiple of the earlier. -/
def firstUneven : List Int → Option UnevenLengths
  | [] => none
  | a :: rest =>
    match rest.find? fun b => b % a ≠ 0 with
    | some b => some ⟨a, b⟩
    | none => firstUneven rest

/-- The least positive number that all the given ones divide. -/
def leastMultiple (lengths : List Int) : Nat := lengths.foldr (fun n m => n.natAbs.lcm m) 1

/-- The number of rows, with the uneven lengths to give notice of. -/
def rowCount (policy : BroadcastPolicy) (lengths : List Int) :
    Except BroadcastError (Nat × Option UnevenLengths) :=
  if lengths.contains 0 then .ok (0, none)
  else
    let different := vectorLengths lengths
    if policy = .strict ∧ different.length > 1 then .error ⟨different⟩
    else .ok (leastMultiple different, firstUneven different)

/-- One row: of each piece the element that the row number comes to after starting over. A piece
without elements has none. -/
def rowAt? (pieces : List (List Text)) (row : Nat) : Option Text :=
  (pieces.mapM fun piece => piece[row % piece.length]?).map List.flatten

/-- The first `rows` rows; none if there are any and a piece has no elements. -/
def recycle? (pieces : List (List Text)) (rows : Nat) : Option (List Text) :=
  (List.range rows).mapM (rowAt? pieces)

end Stencil
