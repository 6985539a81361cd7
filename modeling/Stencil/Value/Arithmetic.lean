import Stencil.Value.Calendar
import Stencil.Value.Printf

/-!
# Arithmetic on values

The operators on numbers, dates and sequences. Whole numbers are unbounded; a quotient of two is a
floating-point number, and whole quotients and remainders go down to the next integer.
-/

namespace Stencil

open Stencil.Expr (BinaryOp UnaryOp)

/-! ## Floating-point numbers -/

/-- The number with the given sign and magnitude. -/
def signedFloat (negative : Bool) (magnitude : Float) : Float :=
  if negative then -magnitude else magnitude

/-- Whether a number has a minus sign, be it zero. -/
def isNegativeFloat (x : Float) : Bool := x.toBits.toNat / Number.twos 63 == 1

/-- The remainder of a division that goes toward zero, which is exact. -/
def truncatedRemainder (x y : Float) : Float :=
  match Number.parts x, Number.parts y with
  | .finite negative m q, .finite _ n r =>
    let e := min q r
    let a := m * Number.twos (q - e).toNat
    let b := n * Number.twos (r - e).toNat
    let rest := a % b
    signedFloat negative (Number.nearestRatio (rest * Number.twos e.toNat) (Number.twos (-e).toNat))
  | .finite .., .infinite _ => x
  | _, _ => 0.0 / 0.0

/-- The whole number at or below a finite number. -/
def floorFloat (x : Float) : Float :=
  match Number.parts x with
  | .finite negative m q =>
    if q ≥ 0 then x
    else
      let whole := m / Number.twos (-q).toNat
      let exact := m % Number.twos (-q).toNat = 0
      let magnitude := if negative ∧ !exact then whole + 1 else whole
      signedFloat negative (Number.nearestRatio magnitude 1)
  | _ => x

/-- The whole quotient and the remainder of a division by a number other than zero; the remainder
has the sign of the divisor. -/
def floatDivMod (x y : Float) : Float × Float :=
  let rest := truncatedRemainder x y
  let quotient := (x - rest) / y
  let (quotient, rest) :=
    if rest == 0.0 then (quotient, signedFloat (isNegativeFloat y) 0.0)
    else if (y < 0.0) != (rest < 0.0) then (quotient - 1.0, rest + y)
    else (quotient, rest)
  if quotient == 0.0 then (signedFloat (isNegativeFloat (x / y)) 0.0, rest)
  else
    let whole := floorFloat quotient
    (if quotient - whole > 0.5 then whole + 1.0 else whole, rest)

/-- Whether a number is infinite. -/
def isInfiniteFloat (x : Float) : Bool :=
  match Number.parts x with
  | .infinite _ => true
  | _ => false

/-- The value of an operation on complex numbers. -/
def complexResult (r : Except Number.ComplexFault Number.Complex) : Except Fault Value :=
  (r.map .complex).mapError fun
    | .division => .zeroDivision .complexQuotient
    | .power => .zeroDivision .complexPower
    | .overflow => .overflow "complex exponentiation"

/-- A power of floating-point numbers. A negative number has complex ones. -/
def floatPower (x y : Float) : Except Fault Value :=
  if x == 0.0 && y < 0.0 then .error (.zeroDivision .negativePower)
  else if x < 0.0 && !isInfiniteFloat x && !isInfiniteFloat y && !Number.isNaN y &&
      floorFloat y != y then
    complexResult ((Number.Complex.ofFloat x).pow (.ofFloat y))
  else
    let r := Float.pow x y
    if isInfiniteFloat r && !isInfiniteFloat x && !isInfiniteFloat y then
      .error (.overflow "(34, 'Numerical result out of range')")
    else .ok (.float r 0)

/-- An operator on floating-point numbers, if they have it. -/
def floatBinary? (op : BinaryOp) (x y : Float) : Option (Except Fault Value) :=
  match op with
  | .add => some (.ok (.float (x + y) 0))
  | .sub => some (.ok (.float (x - y) 0))
  | .mul => some (.ok (.float (x * y) 0))
  | .div =>
    some (if y == 0.0 then .error (.zeroDivision .floatQuotient) else .ok (.float (x / y) 0))
  | .floorDiv =>
    some (if y == 0.0 then .error (.zeroDivision .floatWholeQuotient)
      else .ok (.float (floatDivMod x y).1 0))
  | .mod =>
    some (if y == 0.0 then .error (.zeroDivision .floatRemainder)
      else .ok (.float (floatDivMod x y).2 0))
  | .pow => some (floatPower x y)
  | _ => none

/-! ## Integers -/

/-- The floating-point number nearest to a quotient of integers. -/
def intQuotient (a b : Int) : Except Fault Value :=
  if b = 0 then .error (.zeroDivision .quotient)
  else
    let x := Number.nearestRatio a.natAbs b.natAbs
    if isInfiniteFloat x then .error (.overflow "integer division result too large for a float")
    else .ok (.float (signedFloat ((a < 0) != (b < 0)) x) 0)

/-- An operator on integers, if they have it. -/
def intBinary? (op : BinaryOp) (a b : Int) : Option (Except Fault Value) :=
  match op with
  | .add => some (.ok (.int (a + b)))
  | .sub => some (.ok (.int (a - b)))
  | .mul => some (.ok (.int (a * b)))
  | .div => some (intQuotient a b)
  | .floorDiv =>
    some (if b = 0 then .error (.zeroDivision .wholeQuotient) else .ok (.int (Int.fdiv a b)))
  | .mod =>
    some (if b = 0 then .error (.zeroDivision .remainder) else .ok (.int (Int.fmod a b)))
  | .pow =>
    some (if b ≥ 0 then .ok (.int (Int.pow a b.toNat))
      else do floatPower (← floatOfInt a) (← floatOfInt b))
  | _ => none

/-! ## Decimal numbers -/

/-- An integer or decimal number as a decimal number. -/
def decimalOperand? : Value → Option Number.Decimal
  | .decimal d _ => some d
  | v => v.int?.map fun i => .finite (i < 0) i.natAbs 0

/-- The value of an operation on decimal numbers. -/
def decimalResult (r : Except Number.DecimalFault Number.Decimal) : Except Fault Value :=
  (r.map (.decimal · 0)).mapError .decimal

/-- An operator on decimal numbers, if they have it. -/
def decimalBinary? (op : BinaryOp) (x y : Number.Decimal) : Option (Except Fault Value) :=
  match op with
  | .add => some (decimalResult (x.add y))
  | .sub => some (decimalResult (x.sub y))
  | .mul => some (decimalResult (x.mul y))
  | .div => some (decimalResult (x.div y))
  | .floorDiv => some (decimalResult (x.floorDiv y))
  | .mod => some (decimalResult (x.mod y))
  | .pow => some (decimalResult (x.pow y))
  | _ => none

/-! ## Operators -/

/-- The symbol of an operator. -/
def binarySymbol : BinaryOp → String
  | .bitOr => "|"
  | .bitXor => "^"
  | .bitAnd => "&"
  | .shiftLeft => "<<"
  | .shiftRight => ">>"
  | .add => "+"
  | .sub => "-"
  | .mul => "*"
  | .matMul => "@"
  | .div => "/"
  | .floorDiv => "//"
  | .mod => "%"
  | .pow => "** or pow()"

/-- Operands that an operator does not take. -/
def unsupportedOperands (op : BinaryOp) (a b : Value) : Fault :=
  .type ("unsupported operand type(s) for " ++ binarySymbol op ++ ": '" ++ a.typePath ++
    "' and '" ++ b.typePath ++ "'")

/-- The most elements that a sequence made by repetition may have. Where memory ends is up to the
machine; a fixed number in its place is a boundary of the model. -/
def maxLength : Nat := Number.twos 26

/-- A list several times over; none for a count below one. The result must not be too long. -/
def repeated {α : Type} (count : Int) (items : List α) : Except Fault (List α) :=
  if count.natAbs ≥ Number.twos 63 then
    .error (.overflow "cannot fit 'int' into an index-sized integer")
  else if count.toNat * items.length > maxLength then .error .memory
  else .ok (List.replicate count.toNat items).flatten

/-- A sequence several times over, if the value is one. -/
def repeatValue? (count : Int) : Value → Option (Run Fault Value)
  | .text s | .fragment s => some do return .text (← Run.ofExcept (repeated count s))
  | .bytes s => some do return .bytes (← Run.ofExcept (repeated count s))
  | .tuple items => some do return .tuple (← Run.ofExcept (repeated count items))
  | .list r => some do Run.newList (← Run.ofExcept (repeated count ((← get).items r)))
  | _ => none

/-- A number as a floating-point number, if it is one. -/
def floatOperand? : Value → Option (Except Fault Float)
  | .float x _ => some (.ok x)
  | v => v.int?.map floatOfInt

/-- The sum of a sequence and another of its kind, if the first value is one. -/
def concatenated? (a b : Value) : Option (Run Fault Value) :=
  let refused (kind : String) : Option (Run Fault Value) :=
    some (throw (.type
      ("can only concatenate " ++ kind ++ " (not \"" ++ b.typePath ++ "\") to " ++ kind)))
  match a, b with
  | .tuple xs, .tuple ys => some (pure (.tuple (xs ++ ys)))
  | .tuple _, _ => refused "tuple"
  | .bytes x, .bytes y => some (pure (.bytes (x ++ y)))
  | .bytes _, _ => some (throw (.type ("can't concat " ++ b.typePath ++ " to bytes")))
  | .list r, .list t => some do
    let s ← get
    Run.newList (s.items r ++ s.items t)
  | .list _, _ => refused "list"
  | a, b =>
    match a.text?, b.text? with
    | some x, some y => some (pure (.text (x ++ y)))
    | some _, none => refused "str"
    | none, _ => none

/-- The product of a sequence and a number, if one of the values is a sequence. -/
def product? (a b : Value) : Option (Run Fault Value) :=
  let refused (v : Value) : Run Fault Value :=
    throw (.type ("can't multiply sequence by non-int of type '" ++ v.typePath ++ "'"))
  match repeatValue? (b.int?.getD 0) a, repeatValue? (a.int?.getD 0) b with
  | some r, _ => some (if b.int?.isSome then r else refused b)
  | none, some r => some (if a.int?.isSome then r else refused a)
  | none, none => none

/-- A text formatted with arguments. A format in which nothing is replaced stays what it is. -/
def formatted? (a b : Value) : Option (Run Fault Value) :=
  a.text?.map fun form => do
    let text ← Run.ofExcept (Printf.formatValue (← get) form b)
    return if form = [] ∨ form.contains '%' then .text text else a

/-- An operator that a sequence takes: sums, products, and texts formatted with arguments. -/
def sequenceBinary? (op : BinaryOp) (a b : Value) : Option (Run Fault Value) :=
  match op with
  | .add => concatenated? a b
  | .mul => product? a b
  | .mod => formatted? a b
  | _ => none

/-- A number as a complex number, if it is one. -/
def complexOperand? : Value → Option (Except Fault Number.Complex)
  | .complex z => some (.ok z)
  | v => (floatOperand? v).map (·.map .ofFloat)

/-- An operator on complex numbers, if they have it. -/
def complexBinary? (op : BinaryOp) (a b : Number.Complex) : Option (Except Fault Value) :=
  match op with
  | .add => some (.ok (.complex (a.add b)))
  | .sub => some (.ok (.complex (a.sub b)))
  | .mul => some (.ok (.complex (a.mul b)))
  | .div => some (complexResult (a.div b))
  | .pow => some (complexResult (a.pow b))
  | _ => none

/-- An operator on operands that may have failed to become numbers. -/
def onNumbers? {α : Type} (f : α → α → Option (Except Fault Value)) (a b : Except Fault α) :
    Option (Except Fault Value) :=
  match a, b with
  | .ok x, .ok y => f x y
  | .error fault, _ | .ok _, .error fault => some (.error fault)

/-- An operator on two numbers, if they have it: on integers, else on floating-point numbers, else
on complex ones, or on decimal numbers beside integers. -/
def numberBinary? (op : BinaryOp) (a b : Value) : Option (Except Fault Value) :=
  match a.int?, b.int? with
  | some x, some y => intBinary? op x y
  | _, _ =>
    match floatOperand? a, floatOperand? b with
    | some x, some y => onNumbers? (floatBinary? op) x y
    | _, _ =>
      match complexOperand? a, complexOperand? b with
      | some x, some y => onNumbers? (complexBinary? op) x y
      | _, _ => do decimalBinary? op (← decimalOperand? a) (← decimalOperand? b)

/-- An operator on two values. -/
def binaryValue (op : BinaryOp) (a b : Value) : Run Fault Value :=
  match numberBinary? op a b <|> calendarBinary? op a b, sequenceBinary? op a b with
  | some r, _ => do Run.marked (← Run.ofExcept r)
  | none, some r => r
  | none, none => throw (unsupportedOperands op a b)

/-- Whether a value counts as true: numbers other than zero, and whatever is not empty. -/
def Store.truth (s : Store) : Value → Bool
  | .none => false
  | .bool b => b
  | .int i => i ≠ 0
  | .float x _ => !(x == 0.0)
  | .complex z => !z.isZero
  | .decimal d _ => !d.isZero
  | .text t | .fragment t => t ≠ []
  | .bytes t => t ≠ []
  | .tuple items => !items.isEmpty
  | .range start stop step => Value.rangeLength start stop step ≠ 0
  | .list r => !(s.items r).isEmpty
  | .dict r | .view _ _ r => !(s.entries r).isEmpty
  | .object _ _ _ sized => !sized
  | .duration d => d.microseconds ≠ 0
  | .style style => !style.isNull
  | _ => true

/-- A sign or complement of a value. -/
def unaryValue (op : UnaryOp) (v : Value) : Run Fault Value := do
  let unsupported (symbol : String) : Run Fault Value :=
    throw (.type ("bad operand type for unary " ++ symbol ++ ": '" ++ v.typePath ++ "'"))
  match op, v with
  | .not, v => return .bool (!(← get).truth v)
  | .plus, .float x m => return .float x m
  | .minus, .float x _ => Run.marked (.float (-x) 0)
  | .plus, .complex z => return .complex z
  | .minus, .complex z => return .complex z.neg
  | .plus, .decimal d _ => do Run.marked (← Run.ofExcept (decimalResult d.plus))
  | .minus, .decimal d _ => do Run.marked (← Run.ofExcept (decimalResult d.minus))
  | .plus, .duration d => return .duration d
  | .minus, .duration d => Run.ofExcept (durationResult (-d.microseconds))
  | .plus, v => match v.int? with
    | some i => return .int i
    | none => unsupported "+"
  | .minus, v => match v.int? with
    | some i => return .int (-i)
    | none => unsupported "-"
  | .invert, v => match v.int? with
    | some i => return .int (-i - 1)
    | none => unsupported "~"

end Stencil
