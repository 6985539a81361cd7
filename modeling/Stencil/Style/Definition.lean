import Stencil.Style.Basic
import Stencil.Style.Palette
import Stencil.Text.Blank
import Stencil.Text.Case
import Stencil.Text.Digit
import Stencil.Text.Quoted

/-!
# Style definitions

A style is defined by words: attributes, attributes after `not`, colours, and background colours
after `on`. Later words win.
-/

namespace Stencil

/-! ## Errors -/

/-- What is wrong with the word for a colour, which is named in the complaint as written or, where
its number is out of range, in lower case. -/
inductive ColorError
  | unknown (word : Text)
  | number (word : Text)
  | componentCount (word : Text)
  | component (word : Text)
  | notANumber
  deriving DecidableEq, Repr

/-- Why a style definition is refused. A component that is not a number is a fault of its own. -/
inductive StyleError
  | color (word : Text) (cause : ColorError)
  | background (word : Text) (cause : ColorError)
  | colorExpected
  | linkExpected
  | attributeExpected (found : Text)
  | notANumber
  deriving DecidableEq, Repr

/-- A word between quotes, in a message. -/
def spelled (word : Text) : String := String.ofList (Text.quoted word)

/-- What is wrong with a colour, in words. -/
def ColorError.message : ColorError → String
  | unknown word => spelled word ++ " is not a valid color"
  | number word => "color number must be <= 255 in " ++ spelled word
  | componentCount word => "expected three components in " ++ spelled word
  | component word => "color components must be <= 255 in " ++ spelled word
  | notANumber => "a color component is not a number"

/-- What is wrong with a style definition, in words. -/
def StyleError.message : StyleError → String
  | color word cause => "unable to parse " ++ spelled word ++ " as color; " ++ cause.message
  | background word cause =>
    "unable to parse " ++ spelled word ++ " as background color; " ++ cause.message
  | colorExpected => "color expected after 'on'"
  | linkExpected => "URL expected after 'link'"
  | attributeExpected found => "expected style attribute after 'not', found " ++ spelled found
  | notANumber => ColorError.notANumber.message

/-! ## Colours -/

/-- The value of a hexadecimal digit. -/
def hexDigit? (c : Char) : Option Nat :=
  if c.isDigit then some (c.toNat - 48)
  else if 'a' ≤ c ∧ c ≤ 'f' then some (c.toNat - 87)
  else none

/-- The components that six hexadecimal digits spell. -/
def hexComponents? (s : Text) : Option ColorValue :=
  match s.mapM hexDigit? with
  | some [a, b, c, d, e, f] => some (.components (16 * a + b) (16 * c + d) (16 * e + f))
  | _ => none

/-- A text with the given start and end taken off, if it has them. -/
def between? (start stop s : Text) : Option Text := do
  let rest ← Text.after? start s
  let reversed ← Text.after? stop.reverse rest.reverse
  some reversed.reverse

/-- The number that decimal digits of any script spell; none without digits. -/
def anyNumber? (s : Text) : Option Nat :=
  if s = [] then none
  else (s.mapM Text.digitValue?).map fun digits => digits.foldl (fun n d => 10 * n + d) 0

/-- The colour by its components, which are numbers with commas between them. -/
def componentColor (word lower components : Text) : Except ColorError Color :=
  match Text.splitAtChar ',' components with
  | [r, g, b] =>
    match anyNumber? r, anyNumber? g, anyNumber? b with
    | some r, some g, some b =>
      if r ≤ 255 ∧ g ≤ 255 ∧ b ≤ 255 then .ok ⟨lower, .components r g b⟩
      else .error (.component word)
    | _, _, _ => .error .notANumber
  | _ => .error (.componentCount word)

/-- The colour that a word stands for, in capital or small letters. -/
def Color.ofWord (word : Text) : Except ColorError Color :=
  let lower := Text.strip (Text.lower word)
  if lower = "default".toList then .ok ⟨lower, .default⟩
  else
    match Palette.number? (String.ofList lower) with
    | some n => .ok ⟨lower, .numbered n⟩
    | none =>
      match (Text.after? ['#'] lower).bind hexComponents? with
      | some value => .ok ⟨lower, value⟩
      | none =>
        match between? "color(".toList [')'] lower, between? "rgb(".toList [')'] lower with
        | some digits, _ =>
          if 1 ≤ digits.length ∧ digits.length ≤ 3 ∧ digits.all Char.isDigit then
            let n := digits.foldl (fun n d => 10 * n + (d.toNat - 48)) 0
            if n ≤ 255 then .ok ⟨lower, .numbered n⟩ else .error (.number lower)
          else .error (.unknown word)
        | none, some components =>
          if components ≠ [] ∧ components.all fun c => c = ',' ∨ (Text.digitValue? c).isSome then
            componentColor word lower components
          else .error (.unknown word)
        | none, none => .error (.unknown word)

/-! ## Definitions -/

/-- The short forms of attributes. -/
def attributeShortForms : List (String × Attribute) := [
  ("b", .bold), ("d", .dim), ("i", .italic), ("u", .underline), ("r", .reverse), ("c", .conceal),
  ("s", .strike), ("uu", .underline2), ("o", .overline)]

/-- The attribute that a word stands for. -/
def Attribute.ofWord? (word : Text) : Option Attribute :=
  (all.map fun a => (a.word, a)).lookup (String.ofList word) <|>
    attributeShortForms.lookup (String.ofList word)

/-- The style that the remaining words lay over `style`. Only the first of a pair of words is put in
lower case. A link has no effect here. -/
def Style.addWords (style : Style) : List Text → Except StyleError Style
  | [] => .ok style
  | written :: rest =>
    let word := Text.lower written
    if word = "on".toList then
      match rest with
      | [] => .error .colorExpected
      | name :: rest =>
        match Color.ofWord name with
        | .ok c => (style.overlay (ofBackground c)).addWords rest
        | .error .notANumber => .error .notANumber
        | .error e => .error (.background name e)
    else if word = "not".toList then
      match rest with
      | [] => .error (.attributeExpected [])
      | name :: rest =>
        match Attribute.ofWord? name with
        | some a => (style.overlay (setting a false)).addWords rest
        | none => .error (.attributeExpected name)
    else if word = "link".toList then
      match rest with
      | [] => .error .linkExpected
      | _ :: rest => style.addWords rest
    else
      match Attribute.ofWord? word with
      | some a => (style.overlay (setting a true)).addWords rest
      | none =>
        match Color.ofWord word with
        | .ok c => (style.overlay (ofForeground c)).addWords rest
        | .error .notANumber => .error .notANumber
        | .error e => .error (.color word e)

/-- The style that a definition stands for. -/
def Style.ofDefinition (definition : Text) : Except StyleError Style :=
  if Text.strip definition = "none".toList then .ok .null
  else Style.null.addWords (Text.words definition)

end Stencil
