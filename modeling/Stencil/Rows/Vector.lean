import Stencil.Evaluation.Block

/-!
# Vectors

The value of a block as a vector of elements, the text of an element, and elements joined into one
text.
-/

namespace Stencil

/-- The elements that a value stands for. Texts, bytes and dictionaries are single elements, and so
is everything that has no elements. -/
def asVector (v : Value) : Run Fault (List Value) := do
  match v with
  | .text _ | .fragment _ | .bytes _ | .dict _ => return [v]
  | .iterator _ | .generator _ => elementsOf v
  | v => do
    checkLength v
    return ((← get).elements? v).getD [v]

/-- The text of an element, missing ones as `na`. -/
def toText (na : Text) (v : Value) : Run Fault Text := do
  if v.isMissing then return na else Run.ofExcept ((← get).text v)

/-- The texts of the elements of a value. -/
def vectorTexts (na : Text) (v : Value) : Run Fault (List Text) := do
  (← asVector v).mapM (toText na)

/-! ## Joining -/

/-- The width that says no text is too long. -/
def unlimited : Value := .float (1.0 / 0.0) 0

/-- The texts joined by `sep`, the last one by `last` unless that is empty. -/
def joinLast (sep last : Text) (items : List Text) : Text :=
  match items.getLast? with
  | none => []
  | some final =>
    if last ≠ [] ∧ items.length > 1 then Text.joinWith sep items.dropLast ++ last ++ final
    else Text.joinWith sep items

/-- The whole number of characters that a width allows, if it is finite. -/
def finiteWidth? (width : Value) : Except Fault (Option Int) :=
  match width with
  | .float x _ =>
    match Number.parts x with
    | .finite negative m q => .ok (some (Number.truncate m q negative))
    | _ => .ok none
  | width => do
    let x ← width.toFloat ("must be real number, not " ++ width.typeName)
    match Number.parts x with
    | .finite .. => return some (← width.toInt "must be real number")
    | _ => return none

/-- A text cut to a width and ended with three dots, if it is longer than the width. -/
def truncateTo (width : Value) (s : Text) : Except Fault Text := do
  match ← finiteWidth? width with
  | none => return s
  | some cut =>
    match (Value.int s.length).magnitude?, width.magnitude? with
    | some have_, some limit =>
      if have_.order limit = some .gt then return s.take (cut - 3).toNat ++ ['.', '.', '.']
      else return s
    | _, _ => return s

/-- How the elements of a value are joined: what stands between them, what stands before the last,
how long the result may be, and how missing ones are written. -/
structure Joining where
  sep : Text
  width : Value
  last : Text
  na : Text

/-- The elements of a value joined into one text; nothing if there are none. -/
def collapse (j : Joining) (v : Value) : Run Fault Text := do
  match ← vectorTexts j.na v with
  | [] => return []
  | items => Run.ofExcept (truncateTo j.width (joinLast j.sep j.last items))

end Stencil
