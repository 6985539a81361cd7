import Stencil.Number.Text
import Stencil.Text.Blank
import Stencil.Text.Case
import Stencil.Text.Quoted

/-!
# Dialects of the query language

How each dialect writes names, texts, truth values, dates and times in a query (`Dialect`), and the
dialects that are known by name (`Dialect.ofName?`). A name or text stands between quotes; quotes
inside it, and in some dialects further characters, are written as escapes. A caller chooses a
dialect by a text with its name, which settings may follow (`Dialect.choose`).
-/

namespace Stencil

/-- Characters with what is written for each between quotes; all others stand for themselves. -/
abbrev Escapes := List (Char × Text)

/-- A text with its escapes. -/
def Escapes.write (e : Escapes) (s : Text) : Text :=
  s.flatMap fun c => (e.lookup c).getD [c]

/-- How a dialect writes names and values. Dates and times are given as texts. -/
structure Dialect where
  nameOpening : Char
  nameClosing : Char
  nameEscapes : Escapes
  textEscapes : Escapes
  truth : String
  falsehood : String
  date : Text → Text
  datetime : Text → Text
  time : Text → Text

namespace Dialect

/-! ## Escapes -/

/-- A quote is written twice. -/
def doubled (quote : Char) : Escapes := [(quote, [quote, quote])]

/-- A quote is written after a backslash. -/
def slashed (quote : Char) : Escapes := [(quote, ['\\', quote])]

/-- Each of the given characters is written as a backslash and the letter beside it. -/
def lettered (letters : List (Char × Char)) : Escapes :=
  letters.map fun (c, letter) => (c, ['\\', letter])

/-- A backslash is written twice, and the commonest control characters as a letter after one. -/
def control : Escapes :=
  lettered [('\\', '\\'), ('\n', 'n'), ('\t', 't'), ('\r', 'r'), ('\x08', 'b')]

/-- The control characters of ASCII. -/
def controlCharacters : List Char := (List.range 32 ++ [127]).map Char.ofNat

/-- Control characters are written as a backslash, a mark and digits of a base, of which there are
so many at least. -/
def numbered (mark : Text) (base width : Nat) : Escapes :=
  controlCharacters.map fun c =>
    let digits := Number.natText base c.toNat
    (c, '\\' :: mark ++ List.replicate (width - digits.length) '0' ++ digits)

/-- Control characters are written with two hexadecimal digits. -/
def hexadecimal : Escapes := numbered ['x'] 16 2

/-- Control characters are written with three octal digits. -/
def octal : Escapes := numbered [] 8 3

/-- A null character and the one that ends a text have letters of their own. -/
def textEnds : Escapes := lettered [('\x00', '0'), ('\x1a', 'Z')]

/-- The bell, the form feed and the vertical tab have letters of their own. -/
def printerMarks : Escapes := lettered [('\x07', 'a'), ('\x0c', 'f'), ('\x0b', 'v')]

/-- The form feed has a letter of its own. -/
def formFeed : Escapes := lettered [('\x0c', 'f')]

/-! ## Forms of dates and times -/

/-- A text between two others. -/
def around (before after : String) (s : Text) : Text := before.toList ++ s ++ after.toList

/-- A text as it stands between single quotes. -/
def quotedAs : Text → Text := around "'" "'"

/-- A quoted text that is converted to a type. -/
def cast (type : String) : Text → Text := around "CAST('" ("' AS " ++ type ++ ")")

/-- A quoted date and time that is converted to a type, whose precision says how many digits of its
seconds are kept: none, three or six. -/
def castPrecise (type : String) (s : Text) : Text :=
  let digits := ((s.dropWhile (· ≠ '.')).drop 1).reverse.dropWhile (· == '0')
  cast (if digits.isEmpty then type
    else if digits.length ≤ 3 then type ++ "(3)" else type ++ "(6)") s

/-- A quoted text that a function is called on. -/
def calling (function : String) : Text → Text := around (function ++ "('") "')"

/-! ## The dialects -/

/-- The dialect that is used where none is named. -/
def standard : Dialect where
  nameOpening := '"'
  nameClosing := '"'
  nameEscapes := doubled '"'
  textEscapes := doubled '\''
  truth := "TRUE"
  falsehood := "FALSE"
  date := calling "DATE_STR_TO_DATE"
  datetime := calling "TIME_STR_TO_TIME"
  time := cast "TIME"

/-- Dates and times are converted by type. -/
def postgres : Dialect :=
  { standard with date := cast "DATE", datetime := cast "TIMESTAMP" }

def mysql : Dialect :=
  { postgres with
    nameOpening := '\x60'
    nameClosing := '\x60'
    nameEscapes := doubled '\x60'
    textEscapes := doubled '\'' ++ control ++ textEnds
    datetime := castPrecise "DATETIME" }

/-- Dates are texts. -/
def sqlite : Dialect :=
  { standard with date := quotedAs, datetime := quotedAs, time := calling "TIME" }

def bigquery : Dialect :=
  { mysql with
    nameEscapes := slashed '\x60' ++ control ++ printerMarks ++ hexadecimal
    textEscapes := slashed '\'' ++ control ++ printerMarks ++ hexadecimal
    datetime := cast "DATETIME"
    time := calling "TIME" }

def snowflake : Dialect :=
  { postgres with
    textEscapes := slashed '\'' ++ control ++ formFeed ++ hexadecimal
    time := calling "TO_TIME" }

/-- Names stand between square brackets, and truth values are comparisons. -/
def tsql : Dialect :=
  { postgres with
    nameOpening := '['
    nameClosing := ']'
    nameEscapes := doubled ']'
    truth := "(1 = 1)"
    falsehood := "(1 = 0)"
    datetime := cast "DATETIME2" }

def spark : Dialect :=
  { mysql with
    textEscapes := slashed '\'' ++ control ++ textEnds ++ octal
    datetime := cast "TIMESTAMP"
    time := cast "TIMESTAMP" }

def clickhouse : Dialect :=
  { standard with
    nameEscapes := doubled '"' ++ [('\\', ['\\', '\\'])]
    textEscapes :=
      doubled '\'' ++ control ++ printerMarks ++ lettered [('\x00', '0')] ++ hexadecimal
    date := calling "toDate"
    datetime := cast "DateTime64(6)"
    time := cast "Nullable(TIME)" }

def oracle : Dialect :=
  { standard with date := around "TO_DATE('" "', 'YYYY-MM-DD')" }

def redshift : Dialect :=
  { postgres with textEscapes := slashed '\'' ++ control ++ formFeed ++ octal }

/-- The dialects by name. -/
def named : List (String × Dialect) := [
  ("", standard), ("postgres", postgres), ("duckdb", postgres), ("mysql", mysql),
  ("sqlite", sqlite), ("bigquery", bigquery), ("snowflake", snowflake), ("tsql", tsql),
  ("spark", spark), ("clickhouse", clickhouse), ("oracle", oracle), ("redshift", redshift)]

/-! ## Choosing -/

/-- Why a text does not choose a dialect. -/
inductive Refusal
  | unknownName (name : Text)
  | unknownSetting (key : Text)
  | unknownStrategy (name : Text)
  /-- The setting that names a strategy has no text for its value. -/
  | strategyWithoutName
  deriving DecidableEq, Repr

/-- Why a text does not choose a dialect, in words. -/
def Refusal.message : Refusal → String
  | unknownName name => "Unknown dialect '" ++ String.ofList name ++ "'."
  | unknownSetting key => "Unknown setting '" ++ String.ofList key ++ "'."
  | unknownStrategy name =>
    String.ofList (Text.quoted name) ++ " is not a valid NormalizationStrategy"
  | strategyWithoutName => "a normalization strategy needs a name"

/-- The value of a setting: a switch, a text, or none that counts. -/
inductive Setting
  | none
  | switch (on : Bool)
  | text (s : Text)
  deriving DecidableEq, Repr

/-- The value that a text stands for. -/
def Setting.ofText (s : Text) : Setting :=
  match String.ofList (Text.lower s) with
  | "true" | "1" => .switch true
  | "false" | "0" => .switch false
  | _ => .text s

/-- A setting, written as a key alone or as a key and a value on either side of an equals sign. -/
def settingOf (s : Text) : Text × Setting :=
  match Text.splitAtChar '=' s with
  | [key] => (Text.strip key, .switch true)
  | [key, value] => (Text.strip key, .ofText (Text.strip value))
  | parts => (Text.strip (parts.head?.getD []), .none)

/-- The key of the setting that names a strategy for the case of names. -/
def strategyKey : Text := "normalization_strategy".toList

/-- The strategies for the case of names. -/
def strategies : List String := [
  "LOWERCASE", "UPPERCASE", "CASE_SENSITIVE", "CASE_INSENSITIVE", "CASE_INSENSITIVE_UPPERCASE"]

/-- A strategy is known by its name in capitals. -/
def checkStrategy : Setting → Except Refusal Unit
  | .none => .ok ()
  | .switch _ => .error .strategyWithoutName
  | .text s =>
    if strategies.contains (String.ofList (Text.upper s)) then .ok ()
    else .error (.unknownStrategy (Text.upper s))

/-- Settings are a strategy for the case of names and a version; of several with one key the last
counts. None of them changes how names and values are written. -/
def checkSettings (settings : List (Text × Setting)) : Except Refusal Unit := do
  checkStrategy ((settings.reverse.lookup strategyKey).getD .none)
  match settings.find? fun (key, _) => key ≠ strategyKey ∧ key ≠ "version".toList with
  | some (key, _) => .error (.unknownSetting key)
  | none => .ok ()

/-- The dialect that a text chooses by its name, with settings after commas. -/
def choose (choice : Text) : Except Refusal Dialect :=
  match Text.splitAtChar ',' choice with
  | [] => .ok standard
  | name :: settings =>
    match named.lookup (String.ofList (Text.strip name)) with
    | none => .error (.unknownName name)
    | some d => do
      checkSettings (settings.map settingOf)
      return d

/-! ## Writing -/

/-- A name between quotes. -/
def writeName (d : Dialect) (s : Text) : Text :=
  d.nameOpening :: d.nameEscapes.write s ++ [d.nameClosing]

/-- A text between single quotes. -/
def writeText (d : Dialect) (s : Text) : Text := '\'' :: d.textEscapes.write s ++ ['\'']

end Dialect
end Stencil
