import Stencil.Context

/-!
# Symbols

The table of symbols that blocks refer to where a caller gives none.
-/

namespace Stencil

/-- Symbols with the texts that stand for them. -/
def symbols : List (String × String) := [
  ("heart", "\u2764\ufe0f"),
  ("green_heart", "💚"),
  ("blue_heart", "💙"),
  ("broken_heart", "💔"),
  ("smile", "😄"),
  ("wink", "😉"),
  ("thumbsup", "👍"),
  ("thumbsdown", "👎"),
  ("star", "⭐"),
  ("sparkles", "✨"),
  ("fire", "🔥"),
  ("rocket", "🚀"),
  ("warning", "\u26a0\ufe0f"),
  ("check", "\u2714\ufe0f"),
  ("x", "❌"),
  ("snake", "🐍")]

/-- The symbols as names with their values. -/
def symbolTable : Table := symbols.map fun (name, text) => (name.toList, .text text.toList)

end Stencil
