import Stencil.Text.Case

/-!
# Style names

Names of styles written in one word, such as `bgBrightRed`, as style definitions.
-/

namespace Stencil

/-- Names with definitions of their own. -/
def styleAliases : List (String × String) := [
  ("inverse", "reverse"), ("blurred", "dim"), ("hidden", "conceal"), ("strikethrough", "strike"),
  ("silver", "bright_black"), ("grey", "bright_black")]

/-- A text with an underscore in front of every capital letter that follows a small letter or a
digit; only letters of ASCII count. `inWord` says whether such a character comes before. -/
def splitWords (inWord : Bool) : Text → Text
  | [] => []
  | c :: s =>
    let rest := c :: splitWords (c.isLower || c.isDigit) s
    if inWord && c.isUpper then '_' :: rest else rest

/-- The style definition that a name stands for. A name that starts with `bg` and a capital letter
is a background colour. -/
def styleDefinition (name : Text) : Text :=
  match styleAliases.lookup (String.ofList name) with
  | some definition => definition.toList
  | none =>
    match name with
    | 'b' :: 'g' :: c :: rest =>
      if Text.isUpper c then "on ".toList ++ Text.lower (splitWords false (c :: rest))
      else Text.lower (splitWords false name)
    | name => Text.lower (splitWords false name)

end Stencil
