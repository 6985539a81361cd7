import Stencil.Value.Written

/-!
# Converting numbers

Values as integers and as floating-point numbers, and the numbers that texts spell.
-/

namespace Stencil

/-- The floating-point number nearest to an integer, which must not be too large for one. -/
def floatOfInt (i : Int) : Except Fault Float :=
  let x := Number.nearestRatio i.natAbs 1
  match Number.parts x with
  | .infinite _ => .error (.overflow "int too large to convert to float")
  | _ => .ok (if i < 0 then -x else x)

/-- The integer next to a floating-point number in the direction of zero. -/
def intOfFloat (x : Float) : Except Fault Int :=
  match Number.parts x with
  | .nan => .error (.value "cannot convert float NaN to integer")
  | .infinite _ => .error (.overflow "cannot convert float infinity to integer")
  | .finite negative m q => .ok (Number.truncate m q negative)

/-- The integer next to a decimal number in the direction of zero. -/
def intOfDecimal : Number.Decimal → Except Fault Int
  | .nan .. => .error (.value "cannot convert NaN to integer")
  | .infinite _ => .error (.overflow "cannot convert Infinity to integer")
  | .finite negative c e =>
    let (num, den) := Number.Decimal.ratio negative c e
    .ok (Int.tdiv num den)

/-- The floating-point number nearest to a decimal number. -/
def floatOfDecimal : Number.Decimal → Except Fault Float
  | .nan _ true _ => .error (.value "cannot convert signaling NaN to float")
  | .nan _ false _ => .ok (0.0 / 0.0)
  | .infinite negative => .ok (if negative then -1.0 / 0.0 else 1.0 / 0.0)
  | .finite negative c e =>
    let x := Number.nearestDecimal c e
    .ok (if negative then -x else x)

/-! ## Numbers in texts -/

/-- White space that may stand around a number: all but the separators of ASCII. -/
def isBlankAround (c : Char) : Bool := Text.isBlank c && !(28 ≤ c.toNat && c.toNat ≤ 31)

/-- A text with the digits of all scripts written in ASCII, and white space at its ends left out. -/
def asciiDigits (s : Text) : Text :=
  (Text.stripWhere isBlankAround s).map fun c =>
    match Text.digitValue? c with
    | some d => Char.ofNat (48 + d)
    | none => c

/-- The text without its underscores, each of which must stand between two digits. -/
def dropUnderscores? : (afterDigit : Bool) → Text → Option Text
  | _, [] => some []
  | afterDigit, '_' :: s =>
    match s with
    | d :: _ => if afterDigit && d.isDigit then dropUnderscores? false s else none
    | [] => none
  | _, c :: s => (dropUnderscores? c.isDigit s).map (c :: ·)

/-- The integer that a text spells in decimal. -/
def intOfText (s : Text) : Except Fault Int := do
  let refused : Except Fault Int := do
    .error (.value ("invalid literal for int() with base 10: " ++ String.ofList (Text.quoted s)))
  let (negative, body) := Number.Decimal.signOf (asciiDigits s)
  match dropUnderscores? false body with
  | some digits =>
    if digits ≠ [] ∧ digits.all Char.isDigit then
      if digits.length > 4300 then
        .error (.value
          (s!"Exceeds the limit (4300 digits) for integer string conversion: value has " ++
            s!"{digits.length} digits; use sys.set_int_max_str_digits() to increase the limit"))
      else
        let n : Int := Number.Decimal.digitsValue digits
        .ok (if negative then -n else n)
    else refused
  | none => refused

/-- The base that a text is read in, and the text after the mark of it that may stand in front of
the digits with an underscore between. Base zero stands for the one that the mark says, or for
ten. -/
def baseOf (base : Nat) (s : Text) : Nat × Text :=
  let marked (mark : Char) (b : Nat) : Option (Nat × Text) :=
    match s with
    | '0' :: c :: rest =>
      if c.toLower = mark ∧ (base = b ∨ base = 0) then
        some (b, match rest with
          | '_' :: rest => rest
          | rest => rest)
      else none
    | _ => none
  (marked 'x' 16 <|> marked 'o' 8 <|> marked 'b' 2).getD (if base = 0 then 10 else base, s)

/-- The digit below a base that a character is; letters of either case go on after nine. -/
def digitBelow? (base : Nat) (c : Char) : Option Nat :=
  let d := if c.isDigit then c.toNat - 48 else if c.isAlpha then c.toLower.toNat - 87 else base
  if d < base then some d else none

/-- The digits of a text, between which single underscores may stand. -/
def spelledDigits? (base : Nat) : (afterDigit : Bool) → Text → Option (List Nat)
  | afterDigit, [] => if afterDigit then some [] else none
  | afterDigit, c :: s =>
    if c = '_' then if afterDigit then spelledDigits? base false s else none
    else do return (← digitBelow? base c) :: (← spelledDigits? base true s)

/-- The integer that a text spells in a base from two to thirty-six, or in the one it says itself if
the base is zero. Then a number other than zero does not start with a zero. -/
def intOfTextIn (base : Nat) (s : Text) : Except Fault Int :=
  let refused : Except Fault Int :=
    .error (.value (s!"invalid literal for int() with base {base}: " ++
      String.ofList (Text.quoted s)))
  let (negative, body) := Number.Decimal.signOf (asciiDigits s)
  let (actual, digits) := baseOf base body
  match spelledDigits? actual false digits with
  | none => refused
  | some ds =>
    let n := ds.foldl (fun n d => n * actual + d) 0
    if base = 0 ∧ body.head? = some '0' ∧ actual = 10 ∧ n ≠ 0 then refused
    else if ds.length > 4300 ∧ ¬[2, 4, 8, 16, 32].contains actual then
      .error (.value
        (s!"Exceeds the limit (4300 digits) for integer string conversion: value has " ++
          s!"{ds.length} digits; use sys.set_int_max_str_digits() to increase the limit"))
    else .ok (if negative then -n else n)

/-- The floating-point number that a text spells, infinities and what is no number included. -/
def floatOfText (s : Text) : Except Fault Float :=
  let refused : Except Fault Float :=
    .error (.value ("could not convert string to float: " ++ String.ofList (Text.quoted s)))
  let (negative, body) := Number.Decimal.signOf (asciiDigits s)
  let signed (x : Float) : Except Fault Float := .ok (if negative then -x else x)
  match String.ofList (body.map Char.toLower) with
  | "inf" | "infinity" => signed (1.0 / 0.0)
  | "nan" => .ok (0.0 / 0.0)
  | _ =>
    match (dropUnderscores? false body).bind Number.Decimal.numeral? with
    | some (c, e) => signed (Number.nearestDecimal c e)
    | none => refused

/-! ## Values as numbers -/

/-- A value as an integer, for a conversion that refuses other types with the given message. -/
def Value.toInt (refusal : String) : Value → Except Fault Int
  | .bool b => .ok (if b then 1 else 0)
  | .int i => .ok i
  | .float x _ => intOfFloat x
  | .decimal d _ => intOfDecimal d
  | _ => .error (.type refusal)

/-- A value as a floating-point number, for a conversion that refuses other types with the given
message. -/
def Value.toFloat (refusal : String) : Value → Except Fault Float
  | .bool b => .ok (if b then 1.0 else 0.0)
  | .int i => floatOfInt i
  | .float x _ => .ok x
  | .decimal d _ => floatOfDecimal d
  | _ => .error (.type refusal)

end Stencil
