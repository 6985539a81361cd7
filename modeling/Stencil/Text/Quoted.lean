import Stencil.Text.Printable

/-!
# Quoted texts

The written form of a text or of bytes between quotes, with escapes for what cannot stand as it is.
A single quote is used unless the text has one and has no double quote.
-/

namespace Stencil.Text

/-- The hexadecimal digits of a number, filled up with zeros to `width`. -/
def hexText (width n : Nat) : Text :=
  let digits := Nat.toDigits 16 n
  List.replicate (width - digits.length) '0' ++ digits

/-- A character by its code point, with two, four or eight hexadecimal digits. -/
def codeEscape (n : Nat) : Text :=
  if n < 0x100 then '\\' :: 'x' :: hexText 2 n
  else if n < 0x10000 then '\\' :: 'u' :: hexText 4 n
  else '\\' :: 'U' :: hexText 8 n

/-- The quote that a text is written with. -/
def quoteFor (s : Text) : Char := if s.contains '\'' && !s.contains '"' then '"' else '\''

/-- A character as it is written between the given quotes; characters that are not `plain` are
escaped. -/
def quotedChar (plain : Char → Bool) (quote c : Char) : Text :=
  if c = quote ∨ c = '\\' then ['\\', c]
  else if c = '\n' then ['\\', 'n']
  else if c = '\r' then ['\\', 'r']
  else if c = '\t' then ['\\', 't']
  else if plain c then [c]
  else codeEscape c.toNat

/-- A text between quotes, with the characters that are not `plain` escaped. -/
def quotedWhere (plain : Char → Bool) (s : Text) : Text :=
  let quote := quoteFor s
  quote :: s.flatMap (quotedChar plain quote) ++ [quote]

/-- A text between quotes. -/
def quoted (s : Text) : Text := quotedWhere isPrintable s

/-- A text between quotes, with all characters outside ASCII escaped. -/
def quotedAscii (s : Text) : Text := quotedWhere (fun c => c.toNat < 128 && isPrintable c) s

/-- Bytes between quotes after a mark; printable ASCII stands as it is. -/
def quotedBytes (bytes : List UInt8) : Text :=
  'b' :: quotedAscii (bytes.map fun b => Char.ofNat b.toNat)

end Stencil.Text
