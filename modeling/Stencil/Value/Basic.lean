import Stencil.Expr.Basic
import Stencil.Number.Complex
import Stencil.Number.Decimal
import Stencil.Value.Fault
import Stencil.Value.Duration

/-!
# Values

The values that names stand for and expressions produce. Lists, dictionaries, iterators and other
things that change are kept in a store; a value refers to them by their place in it.
-/

namespace Stencil

/-- A place in the store. -/
abbrev Ref := Nat

/-- The types that can be called to convert a value, and all others. -/
inductive ValueType
  | bool
  | int
  | float
  | text
  | list
  | range
  | type
  | other (name : String)
  deriving DecidableEq, Repr

/-- The name of a type. -/
def ValueType.name : ValueType → String
  | bool => "bool"
  | int => "int"
  | float => "float"
  | text => "str"
  | list => "list"
  | range => "range"
  | type => "type"
  | other name => name

/-- The full name of a type, by which faults call it. -/
def ValueType.path : ValueType → String
  | .other "Decimal" => "decimal.Decimal"
  | .other "date" => "datetime.date"
  | .other "datetime" => "datetime.datetime"
  | .other "time" => "datetime.time"
  | .other "timedelta" => "datetime.timedelta"
  | t => t.name

/-- The operations of texts, lists, dictionaries and frames. -/
inductive Method
  | upper
  | lower
  | strip
  | split
  | join
  | replace
  | startsWith
  | append
  | listPop
  | get
  | keys
  | values
  | items
  | update
  | dictPop
  | frameKeys
  deriving DecidableEq, Repr

/-- The functions that expressions can call. -/
inductive Function
  | length
  | quoted
  | sum
  | minimum
  | maximum
  | sorted
  | absolute
  /-- An operation that takes what it is an operation of as its first argument. -/
  | ofMethod (owner : ValueType) (m : Method)
  /-- A text in square brackets. -/
  | bracket
  /-- Always fails. -/
  | boom
  /-- Counts its calls. -/
  | counter (r : Ref)
  /-- Asks the whole program to end. It is known by a name. -/
  | quit (name : String)
  /-- One that can be named but not called. -/
  | other (name : String)
  deriving DecidableEq, Repr

/-- The parts of a dictionary that can be listed on their own. -/
inductive ViewKind
  | keys
  | values
  | items
  deriving DecidableEq, Repr

/-- The names that an expression sees: the variables of the innermost comprehension or lambda around
it and those of the outer ones, each in a cell of the store, and a dictionary of all others. -/
structure Scope where
  own : List (Text × Ref)
  outer : List (Text × Ref)
  names : Ref

/-- A value. A fragment is a text that is query source; an object is known only by its type and its
text, and a sized one has the length zero but gives no elements; a frame has the entries of a
dictionary as its columns; a failure is a block that failed, with its cause. Values that hold the
same and yet are not the same thing have different marks: objects, views, and numbers that are not
numbers. Other numbers have the mark zero. -/
inductive Value
  | none
  | ellipsis
  | bool (b : Bool)
  | int (i : Int)
  | float (x : Float) (mark : Nat)
  | complex (z : Number.Complex)
  | text (s : Text)
  | fragment (s : Text)
  | bytes (s : List UInt8)
  | decimal (d : Number.Decimal) (mark : Nat)
  | date (d : Date)
  | datetime (d : Date) (t : Time)
  | time (t : Time)
  | duration (d : Duration)
  | tuple (items : List Value)
  | range (start stop step : Int)
  | slice (start stop step : Value)
  | list (r : Ref)
  | dict (r : Ref)
  | view (mark : Nat) (kind : ViewKind) (r : Ref)
  | iterator (r : Ref)
  | generator (r : Ref)
  | style (s : Style)
  | object (mark : Nat) (typeName : String) (label : Text) (sized : Bool)
  | frame (r : Ref)
  | connection (dialect : Option Text)
  | database
  | type (t : ValueType)
  | function (f : Function)
  | method (self : Value) (m : Method)
  | closure (parameters : List (Expr.ParameterKind × Text × Option Value)) (body : Expr.Expr)
      (scope : Scope)
  | failure (text : Text) (cause : Fault)
  | fault (cause : Fault)
  | builtins

instance : Inhabited Value := ⟨.none⟩

namespace Value

/-- The type of a value. -/
def typeOf : Value → ValueType
  | .none => .other "NoneType"
  | .ellipsis => .other "ellipsis"
  | .bool _ => .bool
  | .int _ => .int
  | .float _ _ => .float
  | .complex _ => .other "complex"
  | .text _ => .text
  | .fragment _ => .other "QueryFragment"
  | .bytes _ => .other "bytes"
  | .decimal _ _ => .other "Decimal"
  | .date _ => .other "date"
  | .datetime _ _ => .other "datetime"
  | .time _ => .other "time"
  | .duration _ => .other "timedelta"
  | .tuple _ => .other "tuple"
  | .range _ _ _ => .range
  | .slice _ _ _ => .other "slice"
  | .list _ => .list
  | .dict _ => .other "dict"
  | .view _ .keys _ => .other "dict_keys"
  | .view _ .values _ => .other "dict_values"
  | .view _ .items _ => .other "dict_items"
  | .iterator _ => .other "list_iterator"
  | .generator _ => .other "generator"
  | .style _ => .other "Style"
  | .object _ typeName _ _ => .other typeName
  | .frame _ => .other "Frame"
  | .connection _ => .other "QueryConnection"
  | .database => .other "Connection"
  | .type _ => .type
  | .function f =>
    match f with
    | .ofMethod _ _ => .other "method_descriptor"
    | .bracket | .boom | .counter _ => .other "function"
    | .quit _ => .other "Quitter"
    | _ => .other "builtin_function_or_method"
  | .method _ _ => .other "builtin_function_or_method"
  | .closure _ _ _ => .other "function"
  | .failure _ cause =>
    .other (if cause = .notExpression then "ExpressionSyntaxError" else "EvalError")
  | .fault cause => .other cause.name
  | .builtins => .other "module"

/-- The name of the type of a value. -/
def typeName (v : Value) : String := v.typeOf.name

/-- The full name of the type of a value. -/
def typePath (v : Value) : String := v.typeOf.path

/-- Whether a value can be called. -/
def isCallable : Value → Bool
  | .type _ | .function _ | .method _ _ | .closure _ _ _ => true
  | _ => false

/-- Whether a value is one of a type. A fragment is a text too. -/
def isOf (v : Value) (t : ValueType) : Bool :=
  match v with
  | .fragment _ => t == .text
  | v => v.typeOf == t

/-- The text that a value is, if it is one. -/
def text? : Value → Option Text
  | .text s | .fragment s => some s
  | _ => Option.none

/-- The integer that a value is; the truth values are zero and one. -/
def int? : Value → Option Int
  | .int i => some i
  | .bool b => some (if b then 1 else 0)
  | _ => Option.none

/-- The place of what a value with elements refers to. -/
def place? : Value → Option Ref
  | .list r | .dict r | .frame r => some r
  | _ => Option.none

/-- Whether a value stands for missing data: it is nothing, or not a number. -/
def isMissing : Value → Bool
  | .none => true
  | .float x _ => Number.isNaN x
  | _ => false

end Value
end Stencil
