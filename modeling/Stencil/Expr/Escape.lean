import Stencil.Expr.Numeral

/-!
# Escapes in strings

What the body of a string stands for. A backslash with the characters after it stands for a single
character or, before a newline, for nothing; one that starts no known escape stands for itself. A
character can be called by its name in a table that is given.
-/

namespace Stencil.Expr

/-- The characters that have names, which grow more from one edition of the table to the next. -/
abbrev CharNames := Text → Option Char

/-- The character of exactly `count` hexadecimal digits. In place of a surrogate, which is none,
there is the replacement character. -/
def hexChar? (count : Nat) (s : Text) : Option Char := do
  let digits ← (s.take count).mapM (baseDigit? 16)
  if digits.length = count then
    let code := digits.foldl (fun n d => 16 * n + d) 0
    if code.isValidChar then some (Char.ofNat code)
    else if code < 0x110000 then some '\ufffd'
    else none
  else none

/-- The octal digits that a text starts with, three at most. -/
def octalRun (s : Text) : Text := (s.take 3).takeWhile fun c => '0' ≤ c && c ≤ '7'

/-- The character that an escape of one letter stands for. -/
def letterEscape? : Char → Option Char
  | '\\' => some '\\'
  | '\'' => some '\''
  | '"' => some '"'
  | 'a' => some '\x07'
  | 'b' => some '\x08'
  | 'f' => some '\x0c'
  | 'n' => some '\n'
  | 'r' => some '\r'
  | 't' => some '\t'
  | 'v' => some '\x0b'
  | _ => none

section

variable (names : CharNames)

/-- The character whose name a text starts with, in curly brackets, and how many characters of the
text belong to it. -/
def namedChar? : Text → Option (Char × Nat)
  | '\x7b' :: s =>
    let name := s.takeWhile (· ≠ '\x7d')
    if name = [] ∨ name.length = s.length then none
    else (names name).map (·, name.length + 2)
  | _ => none

/-- What a backslash and `c :: s` start with: the text that it stands for and how many characters of
`s` belong to it. Hexadecimal escapes must be complete; names and code points are for texts only. -/
def escape? (bytes : Bool) (c : Char) (s : Text) : Option (Text × Nat) :=
  if c = '\n' then some ([], 0)
  else if c = 'x' then (hexChar? 2 s).map fun x => ([x], 2)
  else if c = 'u' ∧ !bytes then (hexChar? 4 s).map fun x => ([x], 4)
  else if c = 'U' ∧ !bytes then (hexChar? 8 s).map fun x => ([x], 8)
  else if c = 'N' ∧ !bytes then (namedChar? names s).map fun (x, used) => ([x], used)
  else
    match letterEscape? c, octalRun (c :: s) with
    | some x, _ => some ([x], 0)
    | none, [] => some (['\\', c], 0)
    | none, digits => some ([Char.ofNat (baseValue 8 digits)], digits.length - 1)

/-- The text that the body of a string stands for. -/
def unescape? (bytes : Bool) : Text → Option Text
  | [] => some []
  | c :: s =>
    if c = '\\' then
      match s with
      | [] => some ['\\']
      | d :: s => do
        let (text, used) ← escape? names bytes d s
        let rest ← unescape? bytes (s.drop used)
        some (text ++ rest)
    else (unescape? bytes s).map (c :: ·)
termination_by s => s.length
decreasing_by
  all_goals
    simp only [List.length_cons, List.length_drop]
    omega

/-- The text that a string stands for, raw or not. -/
def bodyText? (raw : Bool) (body : Text) : Option Text :=
  if raw then some body else unescape? names false body

end

/-- The bytes that a string stands for, raw or not. It is written in ASCII, and no character of it
has a name. -/
def bodyBytes? (raw : Bool) (body : Text) : Option (List UInt8) :=
  if body.all fun c => c.toNat < 128 then
    (if raw then some body else unescape? (fun _ => none) true body).map fun s =>
      s.map fun c => c.toNat.toUInt8
  else none

end Stencil.Expr
