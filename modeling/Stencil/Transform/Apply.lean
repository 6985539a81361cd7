import Stencil.Template.TopLevel
import Stencil.Transform.Basic
import Stencil.Transform.Styled
import Stencil.Value.Printf

/-!
# What transformers do

The value that a transformer makes of a block in a context (`Transformer.apply`).
-/

namespace Stencil

open Template (Marker)

/-! ## Marked blocks -/

/-- A block with its mark taken off, if it has one, and whether it had. -/
def Template.Marker.strip (m : Marker) (text : Text) : Text × Bool :=
  match m.remove? text with
  | some body => (body, true)
  | none => (text, false)

/-- The source of an expression with the elements of its value, which stand between square brackets
unless there is only one. -/
def showElements (source : Text) (items : List Text) : Text :=
  let shown := joinLast [',', ' '] [] items
  Text.strip source ++ ' ' :: '=' :: ' ' ::
    if items.length > 1 then '[' :: shown ++ [']'] else shown

/-! ## Symbols -/

/-- The value of a key in a table of symbols; a marked key stands for all symbols whose names
contain it. -/
def lookUp (table : Table) (marker : Marker) (sep text : Text) : Rendering Value :=
  let key := Text.strip text
  match marker.remove? key with
  | some term =>
    let found := table.filter fun (name, _) => Text.occursIn (Text.strip term) name
    Rendering.ofFaults do
      let items ← found.mapM fun (_, v) => toText Layout.standard.na v
      return .text (joinLast sep [] items)
  | none =>
    match table.lookup key with
    | some v => return v
    | none => throw (.block text (.symbol key))

/-! ## Formats -/

/-- A fault that comes from a format that does not suit its value is blamed on the block. -/
def blameFormat (text : Text) : Fault → Problem
  | .type m => .block text (.type m)
  | .value m => .block text (.value m)
  | f => .fault f

/-- The format that the end of a block stands for. -/
def formatOf (written : Text) : Text :=
  if Text.startsWith ['%'] written then written else '%' :: written

/-! ## Queries -/

/-- What stands between backticks, if the text does, apart from blanks around it. -/
def betweenBackticks? (text : Text) : Option Text :=
  match Text.strip text with
  | '\x60' :: rest => if rest.getLast? = some '\x60' then some rest.dropLast else none
  | _ => none

/-- The value of a block as fragments of a query: names if it stands between backticks, and literals
otherwise. A marked block is one fragment, with commas between its elements. -/
def queryFragments (d : Dialect) (c : Context) (text : Text) : Rendering Value := do
  let (body, marked) := Marker.star.strip text
  let (source, quote) := match betweenBackticks? body with
    | some name => (name, d.quoteName)
    | none => (body, d.quoteValue)
  let v ← evaluate source (.context c)
  let items ← Rendering.ofFaults (asVector v)
  let quoted ← items.mapM fun v => Run.ofExcept (quote v)
  if marked then
    return .fragment (if quoted = [] then "NULL".toList else Text.joinWith [',', ' '] quoted)
  else Run.newList (quoted.map .fragment)

/-! ## Transformers -/

namespace Transformer

/-- The value that a transformer makes of a block. -/
def apply : Transformer → Text → Context → Rendering Value
  | identity, text, c => evaluate text (.context c)
  | collapse collapsing delegate, text, c =>
    match collapsing.marker.remove? text with
    | none => delegate.apply text c
    | some body => do
      let v ← delegate.apply body c
      Rendering.ofFaults do return .text (← Stencil.collapse collapsing.joining v)
  | shell way delegate, text, c => do
    let v ← delegate.apply text c
    let items ← Rendering.ofFaults (asVector v)
    let quoted ← Rendering.ofFaults (items.mapM fun v => do
      return Value.text (way.quote (← Run.ofExcept ((← get).text v))))
    Run.newList quoted
  | lookup table marker sep, text, _ => lookUp table marker sep text
  | sprintf delegate, text, c =>
    match Template.splitFormat text with
    | (_, none) => delegate.apply text c
    | (source, some written) => do
      let v ← delegate.apply source c
      let items ← Rendering.ofFaults (asVector v)
      let formatted ← items.mapM fun v => do
        let s ← get
        Run.ofExcept ((Printf.format s (formatOf written) [v]).mapError (blameFormat text))
      Run.newList (formatted.map .text)
  | safely fallback delegate, text, c => do
    try delegate.apply text c
    catch
      | .block failed cause =>
        match fallback with
        | .value v => return v
        | .deferred expression =>
          let names : Table := [("error".toList, .failure failed cause)]
          evaluate expression (.context (← Run.ofExcept ((c.bind names).mapError .argument)))
      | problem => throw problem
  | showing na delegate, text, c =>
    match Marker.equals.remove? text with
    | none => delegate.apply text c
    | some source => do
      let v ← delegate.apply source c
      let items ← Rendering.ofFaults (vectorTexts (naOrStandard na) v)
      return .text (showElements source items)
  | color layout system, text, c =>
    evaluateStyled (layout.getD .standard) system c text
  | sql dialect, text, c => queryFragments dialect c text
  | own _ f, text, c => f text c
  | function f, text, c => f text c
  | callable v, text, _ =>
    Rendering.ofFaults (callWith v [.text text, .object 0 "BindingContext" [] false])

end Transformer
end Stencil
