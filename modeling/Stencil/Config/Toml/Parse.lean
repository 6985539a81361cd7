import Stencil.Config.Toml.Lexical

/-!
# Reading configuration documents

Reads a document in which lines assign values to keys and headers in square brackets start sections
(`document`).
-/

namespace Stencil.Toml

/-- Why a text is not a document. A whole number may be refused for its length alone, and values
because they are nested too deeply. -/
inductive ReadError
  | malformed
  | longNumber
  | deepNesting
  deriving DecidableEq, Repr

/-- What a reader found, or the error where it found nothing. -/
def found {α : Type} (r : Option α) : Except ReadError α :=
  match r with
  | some a => .ok a
  | none => .error .malformed

/-! ## Keys -/

/-- The characters of a key that needs no quotes. -/
def isBare (c : Char) : Bool := c.isAlphanum || c == '-' || c == '_'

/-- A part of a key: bare, or quoted on one line. -/
def keyPart? (s : Text) : Option (Text × Text) :=
  match s.takeWhile isBare with
  | [] => lineText? s
  | bare => some (bare, s.dropWhile isBare)

/-- The parts of a key, with points between them. Blanks may stand around each; `fuel` bounds the
number of parts. -/
def key? : (fuel : Nat) → Text → Option (List Text × Text)
  | 0, _ => none
  | n + 1, s => do
    let (part, rest) ← keyPart? s
    match skipSpace rest with
    | '.' :: rest => do
      let (parts, rest) ← key? n (skipSpace rest)
      return (part :: parts, rest)
    | rest => return ([part], rest)

/-! ## Values -/

/-- A value that holds no others. -/
def scalar (s : Text) : Except ReadError (Item × Text) :=
  match quotedText? s with
  | some (t, rest) => .ok (.text t, rest)
  | none =>
    if Text.startsWith ['"'] s || Text.startsWith ['\''] s then .error .malformed
    else
      match Text.after? "true".toList s, Text.after? "false".toList s with
      | some rest, _ => .ok (.bool true, rest)
      | none, some rest => .ok (.bool false, rest)
      | none, none =>
        match dateTime? s, time? s, basedNumber? s, decimalNumber? s, specialNumber? s with
        | some (valid, rest), _, _, _, _ =>
          if valid then .ok (.moment (written s rest), rest) else .error .malformed
        | none, some rest, _, _, _ => .ok (.moment (written s rest), rest)
        | none, none, some found, _, _ => .ok found
        | none, none, none, some (some item, rest), _ => .ok (item, rest)
        | none, none, none, some (none, _), _ => .error .longNumber
        | none, none, none, none, special => found special

/-- The room for values inside others: an array takes up two units of it, an inline table three. -/
def nestingRoom : Nat := 984

mutual

/-- A value with the rest of the text; `fuel` bounds how many values are read, and `room` how deeply
they are nested. -/
def value : (fuel room : Nat) → Text → Except ReadError (Item × Text)
  | 0, _, _ => .error .malformed
  | n + 1, room, s =>
    match s with
    | '[' :: rest =>
      if room < 2 then .error .deepNesting
      else do
        let (items, rest) ← arrayItems n (room - 2) rest
        return (.array items, rest)
    | '\x7b' :: rest =>
      if room < 3 then .error .deepNesting
      else
        match skipSpace rest with
        | '\x7d' :: rest => .ok (.table [], rest)
        | rest => do
          let (entries, rest) ← inlineEntries n (room - 3) [] rest
          return (.table (itemsOf entries), rest)
    | s => scalar s

/-- The items of an array up to its closing bracket. A comma may follow the last. -/
def arrayItems : (fuel room : Nat) → Text → Except ReadError (List Item × Text)
  | 0, _, _ => .error .malformed
  | n + 1, room, s => do
    match ← found (skipLines (s.length + 1) s) with
    | ']' :: rest => return ([], rest)
    | s => do
      let (item, rest) ← value n room s
      match ← found (skipLines (rest.length + 1) rest) with
      | ']' :: rest => return ([item], rest)
      | ',' :: rest => do
        let (items, rest) ← arrayItems n room rest
        return (item :: items, rest)
      | _ => .error .malformed

/-- The entries of an inline table up to its closing bracket, added to those already read. No comma
follows the last. -/
def inlineEntries : (fuel room : Nat) → Entries → Text → Except ReadError (Entries × Text)
  | 0, _, _, _ => .error .malformed
  | n + 1, room, entries, s => do
    let (path, item, rest) ← assignment n room s
    let entries ← found (insertItem 0 item path entries)
    match skipSpace rest with
    | '\x7d' :: rest => return (entries, rest)
    | ',' :: rest => inlineEntries n room entries (skipSpace rest)
    | _ => .error .malformed

/-- A key, an equals sign and a value. -/
def assignment : (fuel room : Nat) → Text → Except ReadError (List Text × Item × Text)
  | 0, _, _ => .error .malformed
  | n + 1, room, s => do
    let (path, rest) ← found (key? (s.length + 1) s)
    match rest with
    | '=' :: rest => do
      let (item, rest) ← value n room (skipSpace rest)
      return (path, item, rest)
    | _ => .error .malformed

end

/-! ## Documents -/

/-- How far a document has been read: what it holds, and the header and number of the section. -/
structure State where
  root : Entries
  header : List Text
  sectionNumber : Nat

/-- The header of a section, with the rest of the text after its closing bracket. -/
def sectionHeader (st : State) (s : Text) : Except ReadError (State × Text) := do
  let now := st.sectionNumber + 1
  match s with
  | '[' :: s => do
    let (path, rest) ← found (key? (s.length + 1) (skipSpace s))
    let root ← found (appendTable path st.root)
    match rest with
    | ']' :: ']' :: rest => return (⟨root, path, now⟩, rest)
    | _ => .error .malformed
  | s => do
    let (path, rest) ← found (key? (s.length + 1) (skipSpace s))
    let root ← found (openTable now path st.root)
    match rest with
    | ']' :: rest => return (⟨root, path, now⟩, rest)
    | _ => .error .malformed

/-- What stands on a line in front of a comment: an assignment, a header or nothing. -/
def statement (st : State) (s : Text) : Except ReadError (State × Text) :=
  match s with
  | [] => .ok (st, [])
  | c :: rest =>
    if isBare c || c == '"' || c == '\'' then do
      let (path, item, rest) ← assignment (s.length + 1) nestingRoom s
      let root ← found (insertUnder st.sectionNumber st.header path item st.root)
      return ({ st with root }, rest)
    else if c = '[' then sectionHeader st rest
    else if c = '#' ∨ c = '\n' then .ok (st, s)
    else .error .malformed

/-- The rest of a document; `fuel` bounds the number of its lines. -/
def documentFrom : (fuel : Nat) → State → Text → Except ReadError Entries
  | 0, st, _ => .ok st.root
  | n + 1, st, s => do
    let (st, rest) ← statement st (skipSpace s)
    match ← found (skipComment (skipSpace rest)) with
    | [] => return st.root
    | '\n' :: rest => documentFrom n st rest
    | _ => .error .malformed

/-- A text with a newline in place of each return that a newline follows. -/
def joinReturns : Text → Text
  | '\r' :: '\n' :: s => '\n' :: joinReturns s
  | c :: s => c :: joinReturns s
  | [] => []

/-- The entries of a document. -/
def document (s : Text) : Except ReadError (List (Text × Item)) :=
  let s := joinReturns s
  (documentFrom (s.length + 1) ⟨[], [], 0⟩ s).map itemsOf

end Stencil.Toml
