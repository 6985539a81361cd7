import Stencil.Evaluation.Eval
import Stencil.Problem

/-!
# Evaluating blocks

A block is read as an expression and evaluated with the names of a context. What it assigns is
forgotten afterwards; what it changes in shared values stays changed.

Every text that is an expression is read as one, but not all of them are followed to their values:
sets, operators on bits, the formats of fields and calls of the remaining built-in functions end in
a fault instead (`eval`).
-/

namespace Stencil

/-- The fault of a text that contains a null character. -/
def nullCharacterFault : Fault := .value "source code string cannot contain null bytes"

/-- The fault of a source that is given up. -/
def exhaustionFault : Expr.Exhaustion → Fault
  | .depth => .depth
  | .memory => .memory

/-- What goes wrong when a text cannot be read as an expression. A block is to blame only for what
is no expression. -/
def sourceProblem (text : Text) : Expr.SourceError → Problem
  | .nullCharacter => .fault nullCharacterFault
  | .exhausted cause => .fault (exhaustionFault cause)
  | .invalid => .block text .notExpression

/-- The expression of a block. -/
def compileBlock (text : Text) : Rendering Expr.Expr := do
  Run.ofExcept ((Expr.compile (← get).machine text).mapError (sourceProblem text))

/-- Whether a block is an expression. -/
def isExpression (text : Text) : Rendering Bool := do
  Run.ofExcept ((Expr.isExpression (← get).machine text).mapError (sourceProblem text))

/-- The value of an expression that sees the given names. -/
def evalWith (names : Table) (e : Expr.Expr) : Run Fault Value := do
  let r ← Run.newDict (names.map fun (x, v) => (.text x, v))
  eval evaluationFuel ⟨[], [], r⟩ e

/-- The value of a block in a context, as far as the language is followed. -/
def evaluate (text : Text) (context : ContextSource) : Rendering Value := do
  let e ← compileBlock text
  let c ← Run.ofExcept (context.toContext.mapError .context)
  Rendering.ofBlock text (evalWith (c.visible (← get)) e)

/-- The elements of a value that is taken apart. -/
def elementsOf (v : Value) : Run Fault (List Value) := elements evaluationFuel v

/-- A call of a value on arguments by position. -/
def callWith (f : Value) (arguments : List Value) : Run Fault Value :=
  call evaluationFuel f ⟨arguments, []⟩

end Stencil
