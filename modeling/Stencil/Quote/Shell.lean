import Stencil.Text.Basic

/-!
# Quoting for shells

Writes a text as one argument of a command line. The POSIX shell takes what stands between single
quotes as it is; the C shell expands exclamation marks even there; the two ways for the command
prompt of Windows escape double quotes or all special characters.
-/

namespace Stencil

/-- The conventions for quoting an argument. -/
inductive Shell
  | sh
  | csh
  | cmd
  | cmd2
  deriving DecidableEq, Repr

namespace Shell

/-- The names of the conventions. -/
def names : List (String × Shell) := [("sh", sh), ("csh", csh), ("cmd", cmd), ("cmd2", cmd2)]

/-- The convention with a name. -/
def ofName? (name : Text) : Option Shell := names.lookup (String.ofList name)

/-- The characters that a shell takes as they are. -/
def isSafe (c : Char) : Bool :=
  c.isAlphanum || ['_', '@', '%', '+', '=', ':', ',', '.', '/', '-'].contains c

/-- The characters that the command prompt treats specially outside quotes. -/
def isSpecial (c : Char) : Bool :=
  ['(', ')', '%', '!', '^', '"', '<', '>', '&', '|'].contains c

/-- A text as an argument of the POSIX shell. A single quote inside stands between double quotes. -/
def quoteSh (s : Text) : Text :=
  if s ≠ [] ∧ s.all isSafe then s
  else '\'' :: Text.replaceChar '\'' ['\'', '"', '\'', '"', '\''] s ++ ['\'']

/-- A text as an argument. -/
def quote : Shell → Text → Text
  | sh, s => quoteSh s
  | csh, s => Text.replaceChar '!' ['\\', '!'] (quoteSh s)
  | cmd, s => '"' :: Text.replaceChar '"' ['\\', '"'] s ++ ['"']
  | cmd2, s => '"' :: (s.flatMap fun c => if isSpecial c then ['^', c] else [c]) ++ ['"']

end Shell
end Stencil
