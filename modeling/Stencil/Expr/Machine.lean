import Stencil.Expr.Parse
import Stencil.Text.Named

/-!
# Machines

What reading expressions leaves to the machine that does it (`Machine`): the table of names that
characters go by, and the sources that are given up because they nest too deeply or take too much
memory. Both differ from one machine to the next, and the second even with what else is going on.
-/

namespace Stencil.Expr

/-! ## Sources -/

/-- A text with every line end written as a newline. -/
def unifyLines : Text → Text
  | [] => []
  | '\r' :: '\n' :: s => '\n' :: unifyLines s
  | c :: s => (if c = '\r' then '\n' else c) :: unifyLines s

/-- The source that a block is read as. -/
def source (text : Text) : Text := '(' :: unifyLines text ++ ['\n', ')']

/-- More steps than reading a source of the given length takes. -/
def parseFuel (length : Nat) : Nat := 20 * length + 40

/-! ## Machines -/

/-- Why a source is given up before it has been read: it nests too deeply, or it takes too much
memory. -/
inductive Exhaustion
  | depth
  | memory
  deriving DecidableEq, Repr

/-- What characters are called, and which sources are given up. A block of a single token nests
nothing, and no machine gives it up. -/
structure Machine where
  character? : CharNames
  refusal? : Text → Option Exhaustion
  refusal?_of_single {text : Text} {t : Token}
    (h : tokens? (source text) = some [.opening .round, t, .closing .round]) :
    refusal? text = none

/-- How deep an expression nests, down to a depth. -/
def Expr.height : (depth : Nat) → Expr → Nat
  | 0, _ => 0
  | n + 1, e => (e.children.map (Expr.height n)).foldl max 0 + 1

/-- About how deep an expression may nest before it is given up. -/
def maxHeight : Nat := 2900

/-- Why a source is given up: its expression nests too deeply. There are at most as many levels as
there are tokens. -/
def heightRefusal? (names : CharNames) (text : Text) : Option Exhaustion := do
  if text.length < maxHeight then none
  let ts ← tokens? (source text)
  if ts.length < maxHeight then none
  let (e, _) ← expressions? names (parseFuel text.length) ts
  if e.height (parseFuel text.length) < maxHeight then none else some .depth

theorem heightRefusal?_of_single {names : CharNames} {text : Text} {t : Token}
    (h : tokens? (source text) = some [.opening .round, t, .closing .round]) :
    heightRefusal? names text = none := by
  unfold heightRefusal?
  split
  · rfl
  · rw [h]
    rfl

/-- A machine with the common names, which gives up what nests too deeply. -/
def Machine.standard : Machine where
  character? := Text.named?
  refusal? := heightRefusal? Text.named?
  refusal?_of_single := heightRefusal?_of_single

end Stencil.Expr
