import Stencil.Problem
import Stencil.Value.Written

/-!
# Quoting for queries

Values and names as they are written in a query. A fragment is query source already and is left as
it is.
-/

namespace Stencil

/-! ## Numbers -/

/-- A decimal number as a literal. The magnitude of a negative number is rounded to the precision of
decimal arithmetic, if it has one, unless it is written as an integer that is not too long to be
read as one. -/
def decimalLiteral (d : Number.Decimal) : Text :=
  match d with
  | .finite true c e =>
    if c ≠ 0 ∧ (e ≠ 0 ∨ Number.tens 4300 ≤ c) then
      match Number.Decimal.rounded false c e with
      | .ok magnitude => '-' :: magnitude.text
      | .error _ => d.text
    else d.text
  | d => d.text

/-- A floating-point number as a literal. A negative one is written like the decimal number with the
same digits. -/
def floatLiteral (x : Float) : Text :=
  match Number.floatText x with
  | '-' :: digits => ((Number.Decimal.ofText? ('-' :: digits)).map decimalLiteral).getD digits
  | s => s

namespace Dialect

/-- A date as the text that a dialect converts. -/
def dateText (d : Date) : Text :=
  Text.joinWith ['-']
    [Number.natText 10 d.year, Number.padded 2 d.month, Number.padded 2 d.day]

/-- A value as a literal; missing values are `NULL`. -/
def quoteValue (d : Dialect) (v : Value) : Except Problem Text :=
  match v with
  | .fragment s => .ok s
  | .none => .ok "NULL".toList
  | .bool b => .ok (if b then d.truth else d.falsehood).toList
  | .int i => (wholeText i).mapError .fault
  | .float x _ => .ok (if Number.isNaN x then "NULL".toList else floatLiteral x)
  | .decimal x _ => .ok (decimalLiteral x)
  | .text s => .ok (d.writeText s)
  | .date x => .ok (d.date (dateText x))
  | .datetime x t => .ok (d.datetime (x.text ++ ' ' :: t.text))
  | .time t => .ok (d.time t.text)
  | v => .error (.quoting (.value v.typeName))

/-- A value as the name of a table or column. -/
def quoteName (d : Dialect) (v : Value) : Except Problem Text :=
  match v with
  | .fragment s => .ok s
  | .text s => .ok (d.writeName s)
  | v => .error (.quoting (.identifier v.typeName))

/-- The dialect with a name; nothing stands for the standard one. -/
def ofNameOrNone (name : Option Text) : Except QuotingError Dialect :=
  let name := name.getD []
  (choose name).mapError (.dialect name)

/-- The dialect that a connection speaks: an open database, a dialect given by its name, or
nothing. -/
def ofHandle (v : Value) : Except QuotingError Dialect :=
  match v with
  | .none => .ok standard
  | .text s | .fragment s => ofNameOrNone (some s)
  | .connection name => ofNameOrNone name
  | .database => .ok sqlite
  | v => .error (.handle v.typeName)

end Dialect
end Stencil
