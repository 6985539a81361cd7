import Stencil.Text.Utf8
import Stencil.Transform.Basic

/-!
# Options

The options of a render call: its layout and the transformer that it chooses. Options are made from
values that a caller gives under the names of fields (`Options.ofGiven`); each value is checked, and
all that are refused are reported together, in the order of the fields.
-/

namespace Stencil

/-! ## Fields -/

/-- The fields of options with their names, in order. -/
def OptionField.names : List (OptionField × String) := [
  (openDelimiter, "open_delimiter"), (closeDelimiter, "close_delimiter"), (literal, "literal"),
  (transformer, "transformer"), (na, "na"), (sep, "sep"), (trim, "trim"), (comment, "comment"),
  (broadcast, "broadcast"), (dialect, "dialect")]

/-- The name of a field. -/
def OptionField.name (f : OptionField) : Text := ((names.lookup f).getD "").toList

/-- What is wrong with the value of a field, in words. -/
def OptionFault.message : OptionFault → String
  | notText => "Input should be a valid string"
  | notUnicode =>
    "Input should be a valid string, unable to parse raw data as a unicode string"
  | emptyDelimiter => "Value error, Delimiters must be non-empty"
  | longComment => "Value error, Comment must be a single character or empty"
  | notCallable t =>
    "Value error, Transformer must be callable or a registered name, got " ++ t
  | unclearTruth => "Input should be a valid boolean, unable to interpret input"
  | notTruth => "Input should be a valid boolean"
  | notPolicy => "Input should be 'recycle' or 'strict'"

/-! ## Reading values -/

/-- A value as a text. -/
def Value.readText : Value → Except OptionFault Text
  | .text s | .fragment s => .ok s
  | .bytes b =>
    match Text.ofUtf8? b with
    | some s => .ok s
    | _ => .error .notUnicode
  | _ => .error .notText

/-- The words for true and false. -/
def truthWords : List (String × Bool) := [
  ("0", false), ("off", false), ("f", false), ("false", false), ("n", false), ("no", false),
  ("1", true), ("on", true), ("t", true), ("true", true), ("y", true), ("yes", true)]

/-- A word as a truth value, whatever the case of its letters. -/
def readTruthWord (s : Text) : Except OptionFault Bool :=
  match truthWords.lookup (String.ofList (s.map Char.toLower)) with
  | some b => .ok b
  | none => .error .unclearTruth

/-- A whole number as a truth value: zero or one. Others are unclear. -/
def readTruthInt (i : Int) : Except OptionFault Bool :=
  if i = 0 then .ok false else if i = 1 then .ok true else .error .unclearTruth

/-- A number as a truth value, if it is whole and of less than 64 bits. -/
def readTruthNumber : Magnitude → Except OptionFault Bool
  | .finite n d =>
    if n % d = 0 ∧ n.natAbs < Number.twos 63 * d then readTruthInt (n / d) else .error .notTruth
  | _ => .error .notTruth

/-- A value as a truth value. A decimal number counts as the nearest floating-point number. -/
def Value.readTruth : Value → Except OptionFault Bool
  | .bool b => .ok b
  | .int i => if fitsPosition i then readTruthInt i else .error .notTruth
  | .float x _ => readTruthNumber (.ofFloat x)
  | .decimal d _ =>
    match floatOfDecimal d with
    | .ok x => readTruthNumber (.ofFloat x)
    | .error _ => .error .notTruth
  | .text s | .fragment s => readTruthWord s
  | .bytes b =>
    match Text.ofUtf8? b with
    | some s => readTruthWord s
    | _ => .error .unclearTruth
  | _ => .error .notTruth

/-- A value as a policy for vectors of different lengths. -/
def Value.readPolicy (v : Value) : Except OptionFault BroadcastPolicy :=
  match v.text?.map String.ofList with
  | some "recycle" => .ok .recycle
  | some "strict" => .ok .strict
  | _ => .error .notPolicy

/-- A delimiter is not empty. -/
abbrev Delimiter := { s : Text // s ≠ [] }

/-- A value as a delimiter. -/
def Value.readDelimiter (v : Value) : Except OptionFault Delimiter := do
  let s ← v.readText
  if h : s = [] then .error .emptyDelimiter else .ok ⟨s, h⟩

/-- A value as a comment character, or none. -/
def Value.readComment (v : Value) : Except OptionFault Text := do
  let s ← v.readText
  if s.length > 1 then .error .longComment else .ok s

/-! ## Checking -/

/-- The result of checking fields: all that were refused, in order. -/
abbrev Checked (α : Type) := Except (List OptionError) α

/-- A checked function of a checked argument. -/
def Checked.apply {α β : Type} (f : Checked (α → β)) (a : Checked α) : Checked β :=
  match f, a with
  | .ok f, .ok a => .ok (f a)
  | .ok _, .error e => .error e
  | .error e, .ok _ => .error e
  | .error e, .error e' => .error (e ++ e')

/-- What a caller gives under the names of fields. -/
abbrev GivenOptions := List (Text × Given)

/-- What is given, with something else given over it. -/
def GivenOptions.overlay (given top : GivenOptions) : GivenOptions := top ++ given

/-- What is given for a field as a value. A transformer is no value. -/
def Given.read {α : Type} (read : Value → Except OptionFault α) (refused : OptionFault) :
    Given → Except OptionFault α
  | value v => read v
  | transformer _ => .error refused

/-- The checked value of a field, or its default if nothing is given for it. -/
def GivenOptions.field {α : Type} (given : GivenOptions) (f : OptionField) (default : α)
    (read : Given → Except OptionFault α) : Checked α :=
  match given.lookup f.name with
  | none => .ok default
  | some g => (read g).mapError fun fault => [⟨f, fault⟩]

/-! ## Options -/

/-- The transformer that a call chooses: the standard one, one that is known by its name, or one
that is given. -/
inductive Choice
  | standard
  | name (s : Text)
  | transformer (t : Transformer)

/-- What is given as a choice of transformer. -/
def Given.readChoice : Given → Except OptionFault Choice
  | transformer t => .ok (.transformer t)
  | value .none => .ok .standard
  | value v =>
    match v.text? with
    | some s => .ok (.name s)
    | none =>
      if v.isCallable then .ok (.transformer (.callable v)) else .error (.notCallable v.typeName)

/-- The options of a render call. -/
structure Options where
  layout : Layout
  transformer : Choice

namespace Options

/-- What holds unless a caller says otherwise. -/
def standard : Options := ⟨.standard, .standard⟩

/-- Options with the given fields. -/
def make (opening closing : Delimiter) (literal : Bool) (transformer : Choice) (na sep : Text)
    (trim : Bool) (comment : Text) (broadcast : BroadcastPolicy) : Options where
  layout := {
    rules := ⟨opening, closing, literal, comment, opening.2, closing.2⟩
    na, sep, trim, broadcast }
  transformer

/-- The options that a caller gives. Fields that are not given have their defaults, and names that
are not those of fields are left alone. -/
def ofGiven (given : GivenOptions) : Checked Options :=
  let start : Checked _ := .ok make
  let rules := standard.layout.rules
  start
    |>.apply (given.field .openDelimiter ⟨rules.opening, rules.opening_ne⟩
      (Given.read Value.readDelimiter .notText))
    |>.apply (given.field .closeDelimiter ⟨rules.closing, rules.closing_ne⟩
      (Given.read Value.readDelimiter .notText))
    |>.apply (given.field .literal rules.literal (Given.read Value.readTruth .notTruth))
    |>.apply (given.field .transformer standard.transformer Given.readChoice)
    |>.apply (given.field .na standard.layout.na (Given.read Value.readText .notText))
    |>.apply (given.field .sep standard.layout.sep (Given.read Value.readText .notText))
    |>.apply (given.field .trim standard.layout.trim (Given.read Value.readTruth .notTruth))
    |>.apply (given.field .comment rules.comment (Given.read Value.readComment .notText))
    |>.apply (given.field .broadcast standard.layout.broadcast
      (Given.read Value.readPolicy .notPolicy))

end Options

/-- A policy as the value that stands for it. -/
def BroadcastPolicy.name : BroadcastPolicy → Text
  | recycle => "recycle".toList
  | strict => "strict".toList

/-- A choice of transformer as it is given. -/
def Choice.given : Choice → Given
  | standard => .value .none
  | name s => .value (.text s)
  | transformer t => .transformer t

namespace Options

/-- The fields of options as a caller would give them. -/
def given (o : Options) : GivenOptions := [
  (OptionField.openDelimiter.name, .value (.text o.layout.rules.opening)),
  (OptionField.closeDelimiter.name, .value (.text o.layout.rules.closing)),
  (OptionField.literal.name, .value (.bool o.layout.rules.literal)),
  (OptionField.transformer.name, o.transformer.given),
  (OptionField.na.name, .value (.text o.layout.na)),
  (OptionField.sep.name, .value (.text o.layout.sep)),
  (OptionField.trim.name, .value (.bool o.layout.trim)),
  (OptionField.comment.name, .value (.text o.layout.rules.comment)),
  (OptionField.broadcast.name, .value (.text o.layout.broadcast.name))]

/-- Options with what is given in place of their own fields. -/
def merged (o : Options) (top : GivenOptions) : Checked Options :=
  ofGiven (o.given.overlay top)

/-- Options with a transformer in place of the one they choose. -/
def withTransformer (o : Options) (t : Transformer) : Options :=
  { o with transformer := .transformer t }

end Options

/-- Finds the name among those given that a call cannot take, because it has a parameter of that
name. -/
def refuseNames (parameters : List String) (names : List Text) : Except Problem Unit :=
  match names.find? fun x => parameters.contains (String.ofList x) with
  | some x => .error (.argument x)
  | none => .ok ()

end Stencil
