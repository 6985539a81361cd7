import Stencil.Config.Toml.Basic
import Stencil.Number.Decimal

/-!
# Words of configuration documents

Readers for comments, quoted texts, numbers, dates and times. Each takes the text that is to be read
and gives what it found together with the rest of the text, or nothing if there is no such word.
-/

namespace Stencil.Toml

/-! ## White space -/

/-- The blanks inside a line. -/
def isSpace (c : Char) : Bool := c == ' ' || c == '\t'

/-- The blanks inside and between lines. -/
def isSpaceOrNewline (c : Char) : Bool := isSpace c || c == '\n'

/-- A text without the blanks at its start. -/
def skipSpace (s : Text) : Text := s.dropWhile isSpace

/-- The control characters, which may not stand anywhere; the tab is none of them. -/
def isControl (c : Char) : Bool := (c.toNat < 32 && c != '\t') || c.toNat == 127

/-- What follows a comment at the start of a text, if there is one; a control character in a comment
is refused. -/
def skipComment : Text → Option Text
  | '#' :: s =>
    if (s.takeWhile (· ≠ '\n')).any isControl then none else some (s.dropWhile (· ≠ '\n'))
  | s => some s

/-- A text without the blanks and comments at its start; `fuel` bounds their number. -/
def skipLines : (fuel : Nat) → Text → Option Text
  | 0, s => some s
  | n + 1, s =>
    match s.dropWhile isSpaceOrNewline with
    | '#' :: rest => (skipComment ('#' :: rest)).bind (skipLines n)
    | rest => some rest

/-! ## Quoted texts -/

/-- Whether a digit is hexadecimal. -/
def isHexDigit (c : Char) : Bool :=
  c.isDigit || ('a' ≤ c && c ≤ 'f') || ('A' ≤ c && c ≤ 'F')

/-- The value of a hexadecimal digit. -/
def hexValue (c : Char) : Nat :=
  if c.isDigit then c.toNat - 48 else if c ≤ 'F' then c.toNat - 55 else c.toNat - 87

/-- The value of digits to a base. -/
def digitsTo (base : Nat) (s : Text) : Nat := s.foldl (fun n c => base * n + hexValue c) 0

/-- The character that a number of hexadecimal digits give the code point of. -/
def hexChar? (count : Nat) (s : Text) : Option (Text × Text) :=
  let digits := s.take count
  let n := digitsTo 16 digits
  if digits.length = count ∧ digits.all isHexDigit ∧ n.isValidChar then
    some ([Char.ofNat n], s.drop count)
  else none

/-- What a backslash stands for together with the text after it. In a text of several lines it may
join lines. -/
def escape? (multiline : Bool) : Text → Option (Text × Text)
  | 'b' :: s => some (['\x08'], s)
  | 't' :: s => some (['\t'], s)
  | 'n' :: s => some (['\n'], s)
  | 'f' :: s => some (['\x0c'], s)
  | 'r' :: s => some (['\r'], s)
  | '"' :: s => some (['"'], s)
  | '\\' :: s => some (['\\'], s)
  | 'u' :: s => hexChar? 4 s
  | 'U' :: s => hexChar? 8 s
  | s =>
    if multiline ∧ (s.head?.map isSpaceOrNewline).getD false then
      match skipSpace s with
      | [] => some ([], [])
      | '\n' :: rest => some ([], rest.dropWhile isSpaceOrNewline)
      | _ => none
    else none

/-- The body of a text between double quotes; `fuel` bounds its length. -/
def basicBody? (multiline : Bool) : (fuel : Nat) → Text → Option (Text × Text)
  | 0, _ => none
  | _ + 1, [] => none
  | n + 1, c :: s =>
    if c = '"' then
      if !multiline then some ([], s)
      else if Text.startsWith ['"', '"'] s then some ([], s.drop 2)
      else (basicBody? multiline n s).map fun (body, rest) => ('"' :: body, rest)
    else if c = '\\' then
      (escape? multiline s).bind fun (piece, rest) =>
        (basicBody? multiline n rest).map fun (body, rest) => (piece ++ body, rest)
    else if isControl c ∧ ¬(multiline ∧ c = '\n') then none
    else (basicBody? multiline n s).map fun (body, rest) => (c :: body, rest)

/-- The body of a text between single quotes. -/
def literalBody? (multiline : Bool) : Text → Option (Text × Text)
  | [] => none
  | c :: s =>
    if c = '\'' ∧ (!multiline ∨ Text.startsWith ['\'', '\''] s) then
      some ([], if multiline then s.drop 2 else s)
    else if isControl c ∧ ¬(multiline ∧ c = '\n') then none
    else (literalBody? multiline s).map fun (body, rest) => (c :: body, rest)

/-- Up to two further quotes that belong to a text of several lines. -/
def trailingQuotes (quote : Char) (found : Text × Text) : Text × Text :=
  let more := ((found.2.take 2).takeWhile (· == quote)).length
  (found.1 ++ List.replicate more quote, found.2.drop more)

/-- A text without the newline that it may start with. -/
def dropNewline : Text → Text
  | '\n' :: s => s
  | s => s

/-- A text on one line between quotes. -/
def lineText? : Text → Option (Text × Text)
  | '"' :: s => basicBody? false (s.length + 1) s
  | '\'' :: s => literalBody? false s
  | _ => none

/-- A quoted text, on one line or, between three quotes each, on several. -/
def quotedText? (s : Text) : Option (Text × Text) :=
  match s with
  | '"' :: '"' :: '"' :: s =>
    (basicBody? true (s.length + 1) (dropNewline s)).map (trailingQuotes '"')
  | '\'' :: '\'' :: '\'' :: s =>
    (literalBody? true (dropNewline s)).map (trailingQuotes '\'')
  | s => lineText? s

/-! ## Numbers -/

/-- The digits that go on a number; single underscores may stand between digits. -/
def moreDigits (isDigit : Char → Bool) : Text → Text × Text
  | '_' :: c :: s =>
    if isDigit c then
      let (digits, rest) := moreDigits isDigit s
      (c :: digits, rest)
    else ([], '_' :: c :: s)
  | c :: s =>
    if isDigit c then
      let (digits, rest) := moreDigits isDigit s
      (c :: digits, rest)
    else ([], c :: s)
  | [] => ([], [])

/-- Digits with underscores between them, at least one. -/
def digits? (isDigit : Char → Bool) : Text → Option (Text × Text)
  | c :: s =>
    if isDigit c then
      let (digits, rest) := moreDigits isDigit s
      some (c :: digits, rest)
    else none
  | [] => none

/-- A number with a base of its own. -/
def basedNumber? : Text → Option (Item × Text)
  | '0' :: mark :: s =>
    let base (b : Nat) (isDigit : Char → Bool) : Option (Item × Text) :=
      (digits? isDigit s).map fun (digits, rest) => (.int (digitsTo b digits), rest)
    if mark = 'x' then base 16 isHexDigit
    else if mark = 'o' then base 8 fun c => '0' ≤ c && c ≤ '7'
    else if mark = 'b' then base 2 fun c => c == '0' || c == '1'
    else none
  | _ => none

/-- The whole part of a decimal number, which has no zero in front. -/
def wholePart? : Text → Option (Text × Text)
  | '0' :: s => some (['0'], s)
  | s => digits? Char.isDigit s

/-- The fraction of a number, if it has one. -/
def fraction (s : Text) : Text × Text :=
  match s with
  | '.' :: rest => (digits? Char.isDigit rest).getD ([], s)
  | s => ([], s)

/-- The exponent of a number, if it has one. -/
def exponent? (s : Text) : Option (Int × Text) :=
  match s with
  | mark :: rest =>
    if mark = 'e' ∨ mark = 'E' then
      let (negative, rest) := Number.Decimal.signOf rest
      (digits? Char.isDigit rest).map fun (digits, rest) =>
        let shift : Int := Number.Decimal.digitsValue digits
        (if negative then -shift else shift, rest)
    else none
  | [] => none

/-- The most digits that a whole number may have. -/
def maxDigits : Nat := 4300

/-- A decimal number with the rest of the text; a whole number with too many digits is found but has
no value. -/
def decimalNumber? (s : Text) : Option (Option Item × Text) := do
  let (negative, s) := Number.Decimal.signOf s
  let (whole, s) ← wholePart? s
  let (places, afterPlaces) := fraction s
  let power := exponent? afterPlaces
  if places = [] ∧ power.isNone then
    let n : Int := Number.Decimal.digitsValue whole
    let item := if whole.length > maxDigits then none else some (.int (if negative then -n else n))
    return (item, s)
  else
    let (shift, rest) := power.getD (0, afterPlaces)
    let x := Number.nearestDecimal (Number.Decimal.digitsValue (whole ++ places))
      (shift - places.length)
    return (some (.float (if negative then -x else x)), rest)

/-- Infinity and what is no number, with an optional sign. -/
def specialNumber? (s : Text) : Option (Item × Text) :=
  let (negative, s) := Number.Decimal.signOf s
  match s with
  | 'i' :: 'n' :: 'f' :: rest => some (.float (if negative then -1.0 / 0.0 else 1.0 / 0.0), rest)
  | 'n' :: 'a' :: 'n' :: rest => some (.float (0.0 / 0.0), rest)
  | _ => none

/-! ## Dates and times -/

/-- Two digits that stand for a number in a range. -/
def twoDigits? (least most : Nat) : Text → Option (Nat × Text)
  | a :: b :: s =>
    let n := Number.Decimal.digitsValue [a, b]
    if a.isDigit ∧ b.isDigit ∧ least ≤ n ∧ n ≤ most then some (n, s) else none
  | _ => none

/-- What follows a character. -/
def expect? (c : Char) : Text → Option Text
  | d :: s => if d = c then some s else none
  | [] => none

/-- How many days a month has. -/
def daysIn (year month : Nat) : Nat :=
  if month = 2 then
    if year % 4 = 0 ∧ (year % 100 ≠ 0 ∨ year % 400 = 0) then 29 else 28
  else if [4, 6, 9, 11].contains month then 30
  else 31

/-- A date, and whether there is such a day. -/
def date? (s : Text) : Option (Bool × Text) := do
  let (century, s) ← twoDigits? 0 99 s
  let (rest, s) ← twoDigits? 0 99 s
  let year := 100 * century + rest
  let (month, s) ← twoDigits? 1 12 (← expect? '-' s)
  let (day, s) ← twoDigits? 1 31 (← expect? '-' s)
  return (1 ≤ year && day ≤ daysIn year month, s)

/-- The rest of the text after the fraction of a second, if there is one. -/
def skipSecondFraction (s : Text) : Text :=
  match s with
  | '.' :: c :: rest => if c.isDigit then rest.dropWhile Char.isDigit else s
  | s => s

/-- The rest of the text after a time of day. -/
def time? (s : Text) : Option Text := do
  let (_, s) ← twoDigits? 0 23 s
  let (_, s) ← twoDigits? 0 59 (← expect? ':' s)
  let (_, s) ← twoDigits? 0 59 (← expect? ':' s)
  return skipSecondFraction s

/-- The rest of the text after an offset from universal time, if there is one. -/
def skipOffset (s : Text) : Text :=
  match s with
  | c :: rest =>
    if c = 'Z' ∨ c = 'z' then rest
    else if c = '+' ∨ c = '-' then
      (do
        let (_, s) ← twoDigits? 0 23 rest
        let (_, s) ← twoDigits? 0 59 (← expect? ':' s)
        return s).getD s
    else s
  | [] => []

/-- The rest of the text after a date that a time may follow, and whether there is such a day. -/
def dateTime? (s : Text) : Option (Bool × Text) := do
  let (valid, s) ← date? s
  let afterTime := match s with
    | c :: rest => if c = 'T' ∨ c = 't' ∨ c = ' ' then time? rest else none
    | [] => none
  return (valid, (afterTime.map skipOffset).getD s)

/-- The part of a text in front of its rest. -/
def written (s rest : Text) : Text := s.take (s.length - rest.length)

end Stencil.Toml
