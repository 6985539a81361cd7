import Stencil.Quote.Query
import Stencil.Quote.Shell
import Stencil.Render.Layout
import Stencil.Template.Marker

/-!
# Transformers

A transformer is given the text of a block and makes a value of it. Most of them leave the
evaluation to another one, their delegate, and change what it is given or what it answers.
-/

namespace Stencil

open Template (Marker)

/-- What stands in for a block that fails: a value, or an expression that may refer to the
failure. -/
inductive Fallback
  | value (v : Value)
  | deferred (expression : Text)

/-- The quoted form of a deferred expression. -/
def deferredForm (expression : Text) : Text :=
  "Deferred(\"".toList ++ expression ++ "\")".toList

/-- How blocks with a mark are collapsed: the mark, and how their elements are joined. Without a
text of its own for missing values it takes that of the layout. -/
structure Collapsing where
  marker : Marker
  sep : Text
  width : Value
  last : Text
  na : Option Text

/-- Blocks that end in an asterisk are joined without separators. -/
def Collapsing.standard : Collapsing := ⟨.star, [], unlimited, [], none⟩

/-- The text for missing values where neither a caller nor a layout says otherwise. -/
def naOrStandard (na : Option Text) : Text := na.getD Layout.standard.na

/-- The joining that collapsing a block asks for. -/
def Collapsing.joining (c : Collapsing) : Joining := ⟨c.sep, c.width, c.last, naOrStandard c.na⟩

/-- A way to make a value of a block. -/
inductive Transformer
  /-- The value of the block as an expression. -/
  | identity
  /-- Marked blocks become one text. -/
  | collapse (collapsing : Collapsing) (delegate : Transformer)
  /-- Elements become arguments of a command line. -/
  | shell (shell : Shell) (delegate : Transformer)
  /-- The block is a key of a table, or with the mark a part of keys. -/
  | lookup (table : Table) (marker : Marker) (sep : Text)
  /-- Elements are formatted as the end of the block says. -/
  | sprintf (delegate : Transformer)
  /-- A block that fails has a fallback. -/
  | safely (fallback : Fallback) (delegate : Transformer)
  /-- Blocks that end in an equals sign show their source and their value. -/
  | showing (na : Option Text) (delegate : Transformer)
  /-- Blocks that start with a style show what follows in that style. -/
  | color (layout : Option Layout) (system : Option Text)
  /-- Elements become literals or names of a query. -/
  | sql (dialect : Dialect)
  /-- A transformer of a caller's own, with its name. -/
  | own (name : Text) (apply : Text → Context → Rendering Value)
  /-- A plain function of a caller's. -/
  | function (apply : Text → Context → Rendering Value)
  /-- A value that is called. -/
  | callable (v : Value)

instance : Inhabited Transformer := ⟨.identity⟩

namespace Transformer

/-- The name of a transformer; functions have none. -/
def name? : Transformer → Option Text
  | identity => some "identity".toList
  | collapse .. => some "collapse".toList
  | shell .. => some "shell".toList
  | lookup .. => some "lookup".toList
  | sprintf .. => some "sprintf".toList
  | safely .. => some "safely".toList
  | showing .. => some "vv".toList
  | color .. => some "color".toList
  | sql .. => some "sql".toList
  | own name _ => some name
  | function _ => none
  | callable _ => none

/-- A transformer that takes over from a layout what was left open, if there is any such thing. -/
def adapted? (l : Layout) : Transformer → Option Transformer
  | collapse c delegate =>
    if c.na = none then some (collapse { c with na := some l.na } delegate) else none
  | showing none delegate => some (showing (some l.na) delegate)
  | color none system => some (color (some l) system)
  | _ => none

/-- A transformer as it is used under a layout. -/
def adapted (t : Transformer) (l : Layout) : Transformer := (t.adapted? l).getD t

end Transformer

/-! ## Given transformers -/

/-- What a caller gives where a transformer or another value may stand. -/
inductive Given
  | value (v : Value)
  | transformer (t : Transformer)

/-- The transformer that evaluation is left to: the one given, or the standard one in place of what
counts as false. -/
def Given.delegate (s : Store) : Given → Transformer
  | transformer t => t
  | value v => if s.truth v then .callable v else .identity

end Stencil
