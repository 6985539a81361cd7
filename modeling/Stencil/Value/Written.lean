import Stencil.Text.Quoted
import Stencil.Value.Compare

/-!
# Values as text

A value has a text, which blocks show, and a quoted form, which its containers show and in which
texts are told from other values. Both are looked up in the store.
-/

namespace Stencil

/-- Whether a value is shown as its text or in its quoted form. -/
inductive Manner
  | shown
  | quoted
  deriving DecidableEq, Repr

/-- Why a block failed, with the block in quotes. -/
def failureMessage (text : Text) (cause : Fault) : String :=
  "Failed to evaluate " ++ String.ofList (Text.quoted (Text.strip text)) ++ ": " ++ cause.message

/-- The digits of an integer in decimal, of which there cannot be too many. -/
def wholeText (i : Int) : Except Fault Text :=
  if i.natAbs < Number.tens 4300 then .ok (Number.intText i)
  else .error (.value ("Exceeds the limit (4300 digits) for integer string conversion; " ++
    "use sys.set_int_max_str_digits() to increase the limit"))

/-- A text between brackets, with the items separated by commas. -/
def bracketed (opening closing : String) (items : List Text) : Text :=
  opening.toList ++ Text.joinWith [',', ' '] items ++ closing.toList

/-- A name followed by numbers in brackets. -/
def callText (name : String) (arguments : List Nat) : Text :=
  bracketed (name ++ "(") ")" (arguments.map (Number.natText 10))

/-- The name of an operation. -/
def Method.name : Method → String
  | .upper => "upper"
  | .lower => "lower"
  | .strip => "strip"
  | .split => "split"
  | .join => "join"
  | .replace => "replace"
  | .startsWith => "startswith"
  | .append => "append"
  | .listPop | .dictPop => "pop"
  | .get => "get"
  | .keys | .frameKeys => "keys"
  | .values => "values"
  | .items => "items"
  | .update => "update"

/-- The name of a function that is built in. -/
def Function.name : Function → String
  | .length => "len"
  | .quoted => "repr"
  | .sum => "sum"
  | .minimum => "min"
  | .maximum => "max"
  | .sorted => "sorted"
  | .absolute => "abs"
  | .ofMethod _ m => m.name
  | .bracket => "bracket"
  | .boom => "boom"
  | .counter _ => "counter"
  | .quit name | .other name => name

/-- The form of a value that holds no others. -/
def plainForm (manner : Manner) : Value → Except Fault Text
  | .none => .ok "None".toList
  | .ellipsis => .ok "Ellipsis".toList
  | .bool b => .ok (if b then "True" else "False").toList
  | .int i => wholeText i
  | .float x _ => .ok (Number.floatText x)
  | .complex z => .ok z.text
  | .text s => .ok (if manner = .quoted then Text.quoted s else s)
  | .fragment s => .ok (if manner = .quoted then "<SQL> ".toList ++ s else s)
  | .bytes s => .ok (Text.quotedBytes s)
  | .decimal d _ =>
    .ok (if manner = .quoted then bracketed "Decimal('" "')" [d.text] else d.text)
  | .date d => .ok (if manner = .quoted then callText "datetime.date" d.parts else d.text)
  | .datetime d t =>
    .ok (if manner = .quoted then callText "datetime.datetime" (d.parts ++ t.parts)
      else d.text ++ ' ' :: t.text)
  | .time t => .ok (if manner = .quoted then callText "datetime.time" t.parts else t.text)
  | .duration d =>
    .ok (if manner = .quoted then
      bracketed "datetime.timedelta(" ")" (if d.microseconds = 0 then [['0']] else d.namedParts)
      else d.text)
  | .range start stop step =>
    .ok (bracketed "range(" ")" ([start, stop].map Number.intText ++
      if step = 1 then [] else [Number.intText step]))
  | .style s => .ok s.definition
  | .object _ _ label _ => .ok label
  | .type t => .ok ("<class '" ++ t.path ++ "'>").toList
  | .function (.ofMethod owner m) =>
    .ok ("<method '" ++ m.name ++ "' of '" ++ owner.name ++ "' objects>").toList
  | .function (.quit name) => .ok ("Use " ++ name ++ "() or Ctrl-D (i.e. EOF) to exit").toList
  | .function f => .ok ("<built-in function " ++ f.name ++ ">").toList
  | .failure text cause =>
    let message := (failureMessage text cause).toList
    .ok (if manner = .quoted then
      (if cause = .notExpression then "ExpressionSyntaxError(" else "EvalError(").toList ++
        Text.quoted message ++ [')']
      else message)
  | .fault cause =>
    let message := cause.message.toList
    .ok (if manner = .quoted then
      cause.name.toList ++ '(' ::
        (match cause with | .key _ => message | _ => Text.quoted message) ++ [')']
      else message)
  | .builtins => .ok "<module 'builtins' (built-in)>".toList
  | v => .ok ("<" ++ v.typeName ++ ">").toList

namespace Store

/-- The form of a value, followed down to a depth. A container inside itself is written as dots. -/
def form (s : Store) : (depth : Nat) → (within : List Ref) → Manner → Value → Except Fault Text
  | 0, _, _, _ => .error .depth
  | n + 1, within, manner, v =>
    let inner := form s n within .quoted
    let pairs (within : List Ref) (entries : List (Value × Value)) : Except Fault (List Text) :=
      entries.mapM fun (k, v) => do
        return (← form s n within .quoted k) ++ ':' :: ' ' :: (← form s n within .quoted v)
    match v with
    | .tuple items => do
      let items ← items.mapM inner
      return match items with
        | [item] => bracketed "(" ",)" [item]
        | items => bracketed "(" ")" items
    | .slice start stop step => do
      return bracketed "slice(" ")" (← [start, stop, step].mapM inner)
    | .list r =>
      if within.contains r then .ok "[...]".toList
      else do return bracketed "[" "]" (← (s.items r).mapM (form s n (r :: within) .quoted))
    | .dict r =>
      if within.contains r then .ok "\x7b...\x7d".toList
      else do return bracketed "\x7b" "\x7d" (← pairs (r :: within) (s.entries r))
    | .view _ kind r => do
      let items ← (viewItems kind (s.entries r)).mapM inner
      return bracketed (v.typeName ++ "([") "])" items
    | v => plainForm manner v

/-- The text of a value. -/
def text (s : Store) (v : Value) : Except Fault Text := s.form maxValueDepth [] .shown v

/-- The quoted form of a value. -/
def quoted (s : Store) (v : Value) : Except Fault Text := s.form maxValueDepth [] .quoted v

end Store
end Stencil
