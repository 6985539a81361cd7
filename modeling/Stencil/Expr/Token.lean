import Stencil.Expr.Numeral
import Stencil.Template.Quoted
import Stencil.Text.Case
import Stencil.Text.Identifier
import Stencil.Text.Normal

/-!
# Tokens of an expression

Splits the source of an expression into tokens (`tokens?`). Blanks and comments separate tokens, and
so do newlines inside brackets, which have to match in pairs. Strings end where quoted spans of a
template end.
-/

namespace Stencil.Expr

inductive Bracket
  | round
  | square
  | curly
  deriving DecidableEq, Repr

/-- How the body of a string is to be read: with backslashes as ordinary characters, with
expressions in curly brackets, or as bytes. -/
structure StringMarks where
  raw : Bool
  format : Bool
  bytes : Bool
  deriving DecidableEq, Repr

/-- A token. A string keeps its body as written. -/
inductive Token
  | name (n : Text)
  | keyword (word : String)
  | constant (c : Constant)
  | string (marks : StringMarks) (body : Text)
  | symbol (s : String)
  | opening (b : Bracket)
  | closing (b : Bracket)
  deriving DecidableEq

/-! ## Words -/

/-- The words that cannot be names. -/
def keywords : List String := [
  "False", "None", "True", "and", "as", "assert", "async", "await", "break", "class", "continue",
  "def", "del", "elif", "else", "except", "finally", "for", "from", "global", "if", "import", "in",
  "is", "lambda", "nonlocal", "not", "or", "pass", "raise", "return", "try", "while", "with",
  "yield"]

/-- Whether a character can be part of a word; all characters outside ASCII can. -/
def isWordChar (c : Char) : Bool := c.isAlphanum || c == '_' || c.toNat ≥ 128

/-- The token of a word; a word that is not an identifier is none. A name stands for its normal
form, but a keyword has to be written as it is. -/
def wordToken? (word : Text) : Option Token :=
  let spelled := String.ofList word
  if spelled = "None" then some (.constant .none)
  else if spelled = "True" then some (.constant (.bool true))
  else if spelled = "False" then some (.constant (.bool false))
  else if keywords.contains spelled then some (.keyword spelled)
  else if Text.isIdentifier word then some (.name (Text.normalForm word))
  else none

/-- The words that may follow a numeral without a blank. -/
def afterNumeral : List Text :=
  ["and", "else", "for", "if", "in", "is", "not", "or"].map String.toList

/-- Whether a numeral may end in front of a text. -/
def endsNumeral : Text → Bool
  | [] => true
  | c :: s => !isWordChar c || afterNumeral.any (Text.startsWith · (c :: s))

/-! ## Strings -/

/-- The marks that a word in front of a quote sets. -/
def stringMarks? (word : Text) (q : Char) : Option StringMarks :=
  if q = '\'' ∨ q = '"' then
    match word.map Char.toLower with
    | ['u'] => some ⟨false, false, false⟩
    | ['r'] => some ⟨true, false, false⟩
    | ['f'] => some ⟨false, true, false⟩
    | ['r', 'f'] | ['f', 'r'] => some ⟨true, true, false⟩
    | ['b'] => some ⟨false, false, true⟩
    | ['r', 'b'] | ['b', 'r'] => some ⟨true, false, true⟩
    | _ => none
  else none

/-- Whether a text has a newline that no backslash escapes. -/
def hasBareNewline : Text → Bool
  | [] => false
  | '\\' :: _ :: s => hasBareNewline s
  | c :: s => c == '\n' || hasBareNewline s

/-- The string that starts with the quote `q`, and the text after it. Only a string between
threefold quotes goes on over a newline. -/
def string? (marks : StringMarks) (q : Char) (s : Text) : Option (Token × Text) :=
  match Template.untilUnescaped? (Template.terminator q s)
      ((q :: s).drop (Template.terminator q s).length) with
  | none => none
  | some (body, rest) =>
    if (Template.terminator q s).length = 1 ∧ hasBareNewline body then none
    else some (.string marks body, rest)

theorem length_le_of_string? {marks : StringMarks} {q : Char} {s rest : Text} {t : Token}
    (h : string? marks q s = some (t, rest)) : rest.length ≤ s.length := by
  unfold string? at h
  split at h
  · simp at h
  · rename_i b r hb
    split at h
    · simp at h
    · simp only [Option.some.injEq, Prod.mk.injEq] at h
      obtain ⟨_, rfl⟩ := h
      have hq : Template.quoted? q s =
          some (Template.terminator q s ++ b ++ Template.terminator q s, r) := by
        simp [Template.quoted?, hb]
      have := Template.length_lt_of_quoted? hq
      simp only [List.length_cons] at this
      omega

/-! ## Symbols -/

/-- The symbols of several characters, the longest first. -/
def longSymbols : List String :=
  ["...", "**", "//", "==", "!=", "<=", ">=", ":=", "<<", ">>"]

/-- The symbols of one character. -/
def shortSymbols : List Char :=
  ['+', '-', '*', '/', '%', '@', '|', '^', '&', '~', '<', '>', '=', ',', '.', ':']

/-- The longest symbol at the start of `c :: s`, and the text after it. -/
def symbol? (c : Char) (s : Text) : Option (Token × Text) :=
  match longSymbols.find? fun w => Text.startsWith w.toList (c :: s) with
  | some w => some (.symbol w, s.drop (w.length - 1))
  | none => if shortSymbols.contains c then some (.symbol (String.ofList [c]), s) else none

theorem length_le_of_symbol? {c : Char} {s rest : Text} {t : Token}
    (h : symbol? c s = some (t, rest)) : rest.length ≤ s.length := by
  unfold symbol? at h
  split at h
  · simp only [Option.some.injEq, Prod.mk.injEq] at h
    simp [← h.2]
  · split at h
    · simp only [Option.some.injEq, Prod.mk.injEq] at h
      simp [h.2]
    · simp at h

/-! ## Tokens -/

/-- Whether a numeral starts at `c :: s`. -/
def startsNumeral (c : Char) (s : Text) : Bool :=
  c.isDigit || (c == '.' && (s.head?.map Char.isDigit).getD false)

/-- The numeral at the start of `c :: s`, and the text after it. -/
def numeral? (c : Char) (s : Text) : Option (Token × Text) :=
  let numeral := numeralRun (c :: s)
  let rest := s.drop (numeral.length - 1)
  if endsNumeral rest then (numeralValue? numeral).map fun n => (.constant n, rest) else none

theorem length_le_of_numeral? {c : Char} {s rest : Text} {t : Token}
    (h : numeral? c s = some (t, rest)) : rest.length ≤ s.length := by
  simp only [numeral?] at h
  split at h
  · obtain ⟨n, _, heq⟩ := Option.map_eq_some_iff.1 h
    simp only [Prod.mk.injEq] at heq
    simp [← heq.2]
  · simp at h

/-- The word that starts with `c`, or the string that it is a mark of, and the text after it. -/
def word? (c : Char) (s : Text) : Option (Token × Text) :=
  match _h : s.dropWhile isWordChar with
  | [] => (wordToken? (c :: s)).map (·, [])
  | q :: rest =>
    match stringMarks? (c :: s.takeWhile isWordChar) q with
    | some marks => string? marks q rest
    | none => (wordToken? (c :: s.takeWhile isWordChar)).map (·, q :: rest)

theorem length_le_of_word? {c : Char} {s rest : Text} {t : Token}
    (h : word? c s = some (t, rest)) : rest.length ≤ s.length := by
  have hs := (List.dropWhile_suffix (l := s) isWordChar).length_le
  unfold word? at h
  split at h
  · obtain ⟨n, _, heq⟩ := Option.map_eq_some_iff.1 h
    simp only [Prod.mk.injEq] at heq
    simp [← heq.2]
  · rename_i q r hr
    rw [hr, List.length_cons] at hs
    split at h
    · have := length_le_of_string? h
      omega
    · obtain ⟨n, _, heq⟩ := Option.map_eq_some_iff.1 h
      simp only [Prod.mk.injEq] at heq
      simp only [← heq.2, List.length_cons]
      omega

/-- The token at the start of `c :: s`, brackets apart, and the text after it. -/
def token? (c : Char) (s : Text) : Option (Token × Text) :=
  if startsNumeral c s then numeral? c s
  else if isWordChar c then word? c s
  else if c = '\'' ∨ c = '"' then string? ⟨false, false, false⟩ c s
  else symbol? c s

theorem length_le_of_token? {c : Char} {s rest : Text} {t : Token}
    (h : token? c s = some (t, rest)) : rest.length ≤ s.length := by
  unfold token? at h
  split at h
  · exact length_le_of_numeral? h
  · split at h
    · exact length_le_of_word? h
    · split at h
      · exact length_le_of_string? h
      · exact length_le_of_symbol? h

/-- The bracket that a character opens. -/
def openingBracket? : Char → Option Bracket
  | '(' => some .round
  | '[' => some .square
  | '\x7b' => some .curly
  | _ => none

/-- The bracket that a character closes. -/
def closingBracket? : Char → Option Bracket
  | ')' => some .round
  | ']' => some .square
  | '\x7d' => some .curly
  | _ => none

/-- How deep brackets nest at most. -/
def maxDepth : Nat := 200

/-- The tokens of a text that starts inside the given brackets, the innermost first. A newline
outside all brackets is an error, and so is a bracket that does not match. -/
def tokensIn (opened : List Bracket) : Text → Option (List Token)
  | [] => if opened = [] then some [] else none
  | c :: s =>
    if c = ' ' ∨ c = '\t' ∨ c = '\x0c' then tokensIn opened s
    else if c = '\n' then if opened = [] then none else tokensIn opened s
    else if c = '\\' then if s.head? = some '\n' then tokensIn opened (s.drop 1) else none
    else if c = '#' then tokensIn opened (s.dropWhile (· ≠ '\n'))
    else
      match openingBracket? c with
      | some b =>
        if opened.length < maxDepth then (tokensIn (b :: opened) s).map (.opening b :: ·) else none
      | none =>
        match closingBracket? c with
        | some b =>
          if opened.head? = some b then (tokensIn opened.tail s).map (.closing b :: ·) else none
        | none =>
          match _h : token? c s with
          | some (t, rest) => (tokensIn opened rest).map (t :: ·)
          | none => none
termination_by s => s.length
decreasing_by
  · simp
  · simp
  · simp only [List.length_cons, List.length_drop]
    omega
  · have := (List.dropWhile_suffix (l := s) (· ≠ '\n')).length_le
    simp only [List.length_cons]
    omega
  · simp
  · simp
  · have := length_le_of_token? _h
    simp only [List.length_cons]
    omega

/-- The tokens of the source of an expression. -/
def tokens? (source : Text) : Option (List Token) := tokensIn [] source

end Stencil.Expr
