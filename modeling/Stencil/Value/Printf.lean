import Stencil.Text.Case
import Stencil.Value.Convert

/-!
# Printf-style formats

A format is text with directives that start at a percent sign. A directive has flags, a width, a
precision and a conversion, in this order, and takes an argument; a width or precision written as a
star takes one more. Two percent signs stand for one. A directive may begin with a key in round
brackets, which says what to look up in the one argument.
-/

namespace Stencil.Printf

/-! ## Directives -/

/-- The flags of a directive. -/
structure Flags where
  left : Bool
  sign : Bool
  blank : Bool
  alternate : Bool
  fillZeros : Bool
  deriving DecidableEq, Repr

/-- A directive. -/
structure Directive where
  flags : Flags
  width : Option Nat
  precision : Option Nat
  conversion : Char
  deriving DecidableEq, Repr

/-- The characters that set flags. -/
def isFlag (c : Char) : Bool := c == '-' || c == '+' || c == ' ' || c == '#' || c == '0'

/-- The flags that a run of flag characters sets. -/
def flagsOf (s : Text) : Flags :=
  ⟨s.contains '-', s.contains '+', s.contains ' ', s.contains '#', s.contains '0'⟩

/-- The next argument, and those after it. -/
def nextArgument : List Value → Except Fault (Value × List Value)
  | [] => .error (.type "not enough arguments for format string")
  | v :: rest => .ok (v, rest)

/-- The integer that a star stands for, and the arguments after it. -/
def starArgument (arguments : List Value) : Except Fault (Int × List Value) := do
  let (v, rest) ← nextArgument arguments
  match v.int? with
  | some i => .ok (i, rest)
  | none => .error (.type "* wants int")

/-- A number with the text after it. The number must stay below a limit. -/
def boundedNumber (limit : Nat) (message : String) (s : Text) : Except Fault (Nat × Text) :=
  let n := Number.Decimal.digitsValue (s.takeWhile Char.isDigit)
  if n < limit then .ok (n, s.dropWhile Char.isDigit) else .error (.value message)

/-- The width that a directive has next: none, a number, or a star. A negative width stands for one
with the text on the left. -/
def widthOf (s : Text) (arguments : List Value) :
    Except Fault (Option Int × Text × List Value) :=
  match s with
  | '*' :: s => do
    let (i, arguments) ← starArgument arguments
    if i.natAbs < Number.twos 63 then .ok (some i, s, arguments)
    else .error (.overflow "integer is too large for a width")
  | c :: s =>
    if c.isDigit then do
      let (n, s) ← boundedNumber (Number.twos 63) "width too big" (c :: s)
      .ok (some n, s, arguments)
    else .ok (none, c :: s, arguments)
  | [] => .ok (none, [], arguments)

/-- The precision that a directive has next: none, a point alone, or a point with a number or a star
after it. A negative precision is zero. -/
def precisionOf (s : Text) (arguments : List Value) :
    Except Fault (Option Nat × Text × List Value) :=
  match s with
  | '.' :: '*' :: s => do
    let (i, arguments) ← starArgument arguments
    if i.natAbs < Number.twos 31 then .ok (some i.toNat, s, arguments)
    else .error (.overflow "integer is too large for a precision")
  | '.' :: s => do
    let (n, s) ← boundedNumber (Number.twos 31) "precision too big" s
    .ok (some n, s, arguments)
  | s => .ok (none, s, arguments)

/-- A length mark in front of the conversion has no effect. -/
def dropLengthMark : Text → Text
  | c :: s => if c = 'h' ∨ c = 'l' ∨ c = 'L' then s else c :: s
  | [] => []

/-- A key up to the bracket that closes it, and the text after that; further brackets inside must
match in pairs. -/
def spanKey? : (depth : Nat) → Text → Option (Text × Text)
  | _, [] => none
  | 0, ')' :: s => some ([], s)
  | depth + 1, ')' :: s => (spanKey? depth s).map fun (key, rest) => (')' :: key, rest)
  | depth, c :: s =>
    (spanKey? (if c = '(' then depth + 1 else depth) s).map fun (key, rest) => (c :: key, rest)

/-- Whether the parts of a value can be looked up, so that a format need not use it. -/
def isLookedUp : Value → Bool
  | .list _ | .dict _ | .range .. | .bytes _ | .frame _ => true
  | _ => false

/-- What a value has under a key that is a text. -/
def valueAt (s : Store) (v : Value) (key : Text) : Except Fault Value :=
  match v with
  | .dict r | .frame r => do
    match ← s.lookup (s.entries r) (.text key) with
    | some v => return v
    | none => .error (.key (Text.quoted key))
  | .bytes _ => .error (.type "byte indices must be integers or slices, not str")
  | v => .error (.type (v.typePath ++ " indices must be integers or slices, not str"))

/-- The text after the key of a directive, if it has one, and the arguments for the rest: after a
key, what it stands for in the value that is looked up. -/
def keyedArguments (s : Store) (source : Option Value) (form : Text) (arguments : List Value) :
    Except Fault (Text × List Value) :=
  match form with
  | '(' :: rest =>
    match source, spanKey? 0 rest with
    | none, _ => .error (.type "format requires a mapping")
    | some _, none => .error (.value "incomplete format key")
    | some v, some (key, rest) => do return (rest, [← valueAt s v key])
  | form => .ok (form, arguments)

/-- The directive after a percent sign and the key, with the text and the arguments after it. -/
def directiveOf (s : Text) (arguments : List Value) :
    Except Fault (Directive × Text × List Value) := do
  let flags := flagsOf (s.takeWhile isFlag)
  let (width, s, arguments) ← widthOf (s.dropWhile isFlag) arguments
  let (precision, s, arguments) ← precisionOf s arguments
  match dropLengthMark s with
  | [] => .error (.value "incomplete format")
  | conversion :: rest =>
    let flags := if (width.getD 0) < 0 then { flags with left := true } else flags
    .ok (⟨flags, width.map Int.natAbs, precision, conversion⟩, rest, arguments)

/-! ## Conversions -/

/-- How wide and how precise a converted argument may be before there is no memory for it. Where
memory ends is up to the machine and to what else it does; a fixed number in its place is a boundary
of the model. -/
def longest : Nat := Number.tens 8

/-- A converted argument: a sign, a mark of its base, and the rest. -/
structure Converted where
  negative : Bool
  mark : Text
  body : Text
  isNumber : Bool
  deriving DecidableEq, Repr

/-- A text converted as a text, cut to the precision. -/
def convertText (d : Directive) (s : Text) : Converted :=
  ⟨false, [], match d.precision with | some n => s.take n | none => s, false⟩

/-- An integer in a base with a letter for its mark; the precision is the least number of digits. -/
def convertInt (d : Directive) (i : Int) : Except Fault Converted :=
  let minimum := d.precision.getD 0
  if minimum > Number.twos 31 - 4 then .error (.overflow "precision too large")
  else if minimum > longest then .error .memory
  else do
    let digits ←
      if d.conversion = 'o' then .ok (Number.natText 8 i.natAbs)
      else if d.conversion = 'x' then .ok (Number.natText 16 i.natAbs)
      else if d.conversion = 'X' then .ok ((Number.natText 16 i.natAbs).map Char.toUpper)
      else wholeText i.natAbs
    let based := d.conversion = 'o' ∨ d.conversion = 'x' ∨ d.conversion = 'X'
    .ok ⟨i < 0, if based ∧ d.flags.alternate then ['0', d.conversion] else [],
      Number.zeros (minimum - digits.length) ++ digits, true⟩

/-- A floating-point number in fixed, scientific or general notation, with six places by default. -/
def convertFloat (d : Directive) (x : Float) : Except Fault Converted :=
  let places := d.precision.getD 6
  let cased (s : Text) : Text := if d.conversion.isUpper then s.map Char.toUpper else s
  match Number.parts x with
  | .nan => .ok ⟨false, [], cased ['n', 'a', 'n'], true⟩
  | .infinite negative => .ok ⟨negative, [], cased ['i', 'n', 'f'], true⟩
  | .finite negative m q =>
    if places > longest then .error .memory
    else
      let body := match d.conversion.toLower with
        | 'e' => Number.scientificText m q places d.flags.alternate
        | 'f' => Number.fixedText m q places d.flags.alternate
        | _ => Number.generalText m q places d.flags.alternate
      .ok ⟨negative, [], cased body, true⟩

/-- A character: a text of one, or the one with a code point. -/
def convertChar (d : Directive) (v : Value) : Except Fault Converted :=
  match v.text?, v.int? with
  | some [c], _ => .ok (convertText { d with precision := none } [c])
  | _, some i =>
    if 0 ≤ i ∧ i < 0x110000 then .ok ⟨false, [], [Char.ofNat i.toNat], false⟩
    else .error (.overflow "%c arg not in range(0x110000)")
  | _, none => .error (.type "%c requires int or char")

/-- A text with all characters outside ASCII escaped. -/
def escapeWide (s : Text) : Text :=
  s.flatMap fun c => if c.toNat < 128 then [c] else Text.codeEscape c.toNat

/-- A conversion that there is none of, at an offset of the format. -/
def unknownConversion (c : Char) (offset : Nat) : Fault :=
  let shown := if 31 ≤ c.toNat ∧ c.toNat < 127 then c else '?'
  .value ("unsupported format character '" ++ String.ofList [shown] ++ "' (0x" ++
    String.ofList (Number.natText 16 c.toNat) ++ s!") at index {offset}")

/-- The argument of a directive, converted; the conversion stands at an offset of the format. -/
def convert (s : Store) (d : Directive) (offset : Nat) (v : Value) : Except Fault Converted :=
  let c := d.conversion
  if c = 's' then (s.text v).map (convertText d)
  else if c = 'r' then (s.quoted v).map (convertText d)
  else if c = 'a' then (s.quoted v).map fun t => convertText d (escapeWide t)
  else if c = 'd' ∨ c = 'i' ∨ c = 'u' then do
    convertInt d (← v.toInt
      ("%" ++ String.ofList [c] ++ " format: a real number is required, not " ++ v.typePath))
  else if c = 'o' ∨ c = 'x' ∨ c = 'X' then
    match v.int? with
    | some i => convertInt d i
    | none => .error (.type
      ("%" ++ String.ofList [c] ++ " format: an integer is required, not " ++ v.typePath))
  else if c.toLower = 'e' ∨ c.toLower = 'f' ∨ c.toLower = 'g' then do
    convertFloat d (← v.toFloat ("must be real number, not " ++ v.typePath))
  else if c = 'c' then convertChar d v
  else .error (unknownConversion c offset)

/-! ## Layout -/

/-- The sign of a converted argument. -/
def signText (flags : Flags) (x : Converted) : Text :=
  if !x.isNumber then []
  else if x.negative then ['-']
  else if flags.sign then ['+']
  else if flags.blank then [' ']
  else []

/-- A converted argument filled up to its width: on the right if it is to be on the left, with zeros
between the sign and the digits of a number, else with blanks in front. -/
def layout (d : Directive) (x : Converted) : Except Fault Text :=
  let sign := signText d.flags x
  let width := d.width.getD 0
  let missing := width - (sign.length + x.mark.length + x.body.length)
  if width > longest then .error .memory
  else if d.flags.left then
    .ok (sign ++ x.mark ++ x.body ++ List.replicate missing ' ')
  else if d.flags.fillZeros ∧ x.isNumber then
    .ok (sign ++ x.mark ++ Number.zeros missing ++ x.body)
  else .ok (List.replicate missing ' ' ++ sign ++ x.mark ++ x.body)

/-! ## Formats -/

/-- The rest of a format of the given size with its directives replaced by arguments, all of which
must be used unless there is a value that keys are looked up in. The steps are bounded by the length
of the format. -/
def formatFrom (s : Store) (source : Option Value) (size : Nat) :
    (fuel : Nat) → Text → List Value → Except Fault Text
  | _, [], arguments =>
    if arguments.isEmpty || source.isSome then .ok []
    else .error (.type "not all arguments converted during string formatting")
  | 0, _ :: _, _ => .error .depth
  | n + 1, '%' :: '%' :: rest, arguments => do
    return '%' :: (← formatFrom s source size n rest arguments)
  | n + 1, '%' :: rest, arguments => do
    let (rest, arguments) ← keyedArguments s source rest arguments
    let (d, rest, arguments) ← directiveOf rest arguments
    let (v, arguments) ← nextArgument arguments
    let text ← layout d (← convert s d (size - rest.length - 1) v)
    return text ++ (← formatFrom s source size n rest arguments)
  | n + 1, c :: rest, arguments => do return c :: (← formatFrom s source size n rest arguments)

/-- A format with its directives replaced by the arguments. -/
def format (s : Store) (form : Text) (arguments : List Value) : Except Fault Text :=
  formatFrom s none form.length form.length form arguments

/-- A format with its directives replaced by the elements of a tuple, or by any other value, in
which keys are looked up if it has parts. -/
def formatValue (s : Store) (form : Text) (v : Value) : Except Fault Text :=
  match v with
  | .tuple items => format s form items
  | v => formatFrom s (if isLookedUp v then some v else none) form.length form.length form [v]

end Stencil.Printf
