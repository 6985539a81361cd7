import Stencil.Number.Decimal.Power
import Stencil.Style.Definition
import Stencil.Text.Utf8

/-!
# Faults

What can go wrong while an expression is evaluated or a value is used.
-/

namespace Stencil

/-- The divisions by zero that are told apart. -/
inductive ZeroDivision
  | quotient
  | wholeQuotient
  | remainder
  | floatQuotient
  | floatWholeQuotient
  | floatRemainder
  | negativePower
  | complexQuotient
  | complexPower
  deriving DecidableEq, Repr

/-- What a division by zero is called. -/
def ZeroDivision.message : ZeroDivision → String
  | quotient => "division by zero"
  | wholeQuotient => "integer division or modulo by zero"
  | remainder => "integer modulo by zero"
  | floatQuotient => "float division by zero"
  | floatWholeQuotient => "float floor division by zero"
  | floatRemainder => "float modulo"
  | negativePower => "0.0 cannot be raised to a negative power"
  | complexQuotient => "complex division by zero"
  | complexPower => "0.0 to a negative or complex power"

/-- Why an evaluation stops. -/
inductive Fault
  /-- A name that nothing is bound to. -/
  | unbound (name : Text)
  /-- A name of a comprehension or lambda that has no value yet. -/
  | unassigned (name : Text)
  /-- The same for a name of a comprehension or lambda farther out. -/
  | unassignedOutside (name : Text)
  | zeroDivision (operation : ZeroDivision)
  /-- An operation on decimal numbers without a result. -/
  | decimal (cause : Number.DecimalFault)
  /-- A position outside a sequence; the message names the sequence. -/
  | index (message : String)
  /-- A key that a dictionary does not have, in its quoted form. -/
  | key (quoted : Text)
  /-- A symbol that a table does not have. -/
  | symbol (key : Text)
  /-- A failure that a caller's own function reports. -/
  | failure (message : Text)
  | style (cause : StyleError)
  /-- An operation on a type that does not support it. -/
  | type (message : String)
  /-- An operation on a value that does not support it. -/
  | value (message : String)
  /-- A member that a value does not have. -/
  | member (message : String)
  | overflow (message : String)
  /-- A text or a source that is too long. -/
  | memory
  /-- Values or a source nested too deeply, or a computation that takes too many steps. -/
  | depth
  /-- A call that asks the whole program to end. No block is to blame for it. -/
  | exit
  /-- The text is not an expression. -/
  | notExpression
  deriving DecidableEq, Repr

namespace Fault

/-- What an operation on decimal numbers without a result is called. -/
def decimalSignal : Number.DecimalFault → String
  | .invalid => "InvalidOperation"
  | .undefinedQuotient => "DivisionUndefined"
  | .longQuotient => "DivisionImpossible"
  | .divisionByZero => "DivisionByZero"
  | .overflow => "Overflow"

/-- The name of a kind of fault. -/
def name : Fault → String
  | unbound _ => "NameError"
  | unassigned _ => "UnboundLocalError"
  | unassignedOutside _ => "NameError"
  | zeroDivision _ => "ZeroDivisionError"
  | decimal .divisionByZero => "DivisionByZero"
  | decimal .overflow => "Overflow"
  | decimal _ => "InvalidOperation"
  | index _ => "IndexError"
  | key _ => "KeyError"
  | symbol _ => "LookupError"
  | failure _ => "RuntimeError"
  | style .notANumber => "ValueError"
  | style _ => "StyleSyntaxError"
  | type _ => "TypeError"
  | value _ => "ValueError"
  | member _ => "AttributeError"
  | overflow _ => "OverflowError"
  | memory => "MemoryError"
  | depth => "RecursionError"
  | exit => "SystemExit"
  | notExpression => "SyntaxError"

/-- What went wrong, in words. A name is shown up to two hundred bytes. -/
def message : Fault → String
  | unbound name => "name '" ++ String.ofList (Text.takeBytes 200 name) ++ "' is not defined"
  | unassigned name =>
    "cannot access local variable '" ++ String.ofList name ++
      "' where it is not associated with a value"
  | unassignedOutside name =>
    "cannot access free variable '" ++ String.ofList name ++
      "' where it is not associated with a value in enclosing scope"
  | zeroDivision operation => operation.message
  | decimal cause => "[<class 'decimal." ++ decimalSignal cause ++ "'>]"
  | index message => message
  | key quoted => String.ofList quoted
  | symbol text => "Unknown symbol '" ++ String.ofList text ++ "'"
  | failure message => String.ofList message
  | style cause => cause.message
  | type message => message
  | value message => message
  | member message => message
  | overflow message => message
  | memory => ""
  | depth => "maximum recursion depth exceeded"
  | exit => ""
  | notExpression => "invalid syntax"

end Fault
end Stencil
