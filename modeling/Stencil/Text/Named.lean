import Stencil.Text.Composition

/-!
# Names of characters

The names that common characters go by (`named?`): those of digits, punctuation and signs are in a
table, and those of Greek letters and of Latin ones with their marks follow a rule. Names are not
told apart by case. Most characters of the world have a name that is not known here.
-/

namespace Stencil.Text

/-- The names of digits, punctuation, signs, and letters that are not made of others. -/
def signNames : List (Nat × String) := [
  (0x20, "SPACE"), (0x21, "EXCLAMATION MARK"), (0x22, "QUOTATION MARK"), (0x23, "NUMBER SIGN"),
  (0x24, "DOLLAR SIGN"), (0x25, "PERCENT SIGN"), (0x26, "AMPERSAND"), (0x27, "APOSTROPHE"),
  (0x28, "LEFT PARENTHESIS"), (0x29, "RIGHT PARENTHESIS"), (0x2A, "ASTERISK"), (0x2B, "PLUS SIGN"),
  (0x2C, "COMMA"), (0x2D, "HYPHEN-MINUS"), (0x2E, "FULL STOP"), (0x2F, "SOLIDUS"),
  (0x30, "DIGIT ZERO"), (0x31, "DIGIT ONE"), (0x32, "DIGIT TWO"), (0x33, "DIGIT THREE"),
  (0x34, "DIGIT FOUR"), (0x35, "DIGIT FIVE"), (0x36, "DIGIT SIX"), (0x37, "DIGIT SEVEN"),
  (0x38, "DIGIT EIGHT"), (0x39, "DIGIT NINE"), (0x3A, "COLON"), (0x3B, "SEMICOLON"),
  (0x3C, "LESS-THAN SIGN"), (0x3D, "EQUALS SIGN"), (0x3E, "GREATER-THAN SIGN"),
  (0x3F, "QUESTION MARK"), (0x40, "COMMERCIAL AT"), (0x5B, "LEFT SQUARE BRACKET"),
  (0x5C, "REVERSE SOLIDUS"), (0x5D, "RIGHT SQUARE BRACKET"), (0x5E, "CIRCUMFLEX ACCENT"),
  (0x5F, "LOW LINE"), (0x60, "GRAVE ACCENT"), (0x7B, "LEFT CURLY BRACKET"),
  (0x7C, "VERTICAL LINE"), (0x7D, "RIGHT CURLY BRACKET"), (0x7E, "TILDE"),
  (0xA0, "NO-BREAK SPACE"), (0xA1, "INVERTED EXCLAMATION MARK"), (0xA2, "CENT SIGN"),
  (0xA3, "POUND SIGN"), (0xA4, "CURRENCY SIGN"), (0xA5, "YEN SIGN"), (0xA6, "BROKEN BAR"),
  (0xA7, "SECTION SIGN"), (0xA8, "DIAERESIS"), (0xA9, "COPYRIGHT SIGN"),
  (0xAA, "FEMININE ORDINAL INDICATOR"), (0xAB, "LEFT-POINTING DOUBLE ANGLE QUOTATION MARK"),
  (0xAC, "NOT SIGN"), (0xAD, "SOFT HYPHEN"), (0xAE, "REGISTERED SIGN"), (0xAF, "MACRON"),
  (0xB0, "DEGREE SIGN"), (0xB1, "PLUS-MINUS SIGN"), (0xB2, "SUPERSCRIPT TWO"),
  (0xB3, "SUPERSCRIPT THREE"), (0xB4, "ACUTE ACCENT"), (0xB5, "MICRO SIGN"),
  (0xB6, "PILCROW SIGN"), (0xB7, "MIDDLE DOT"), (0xB8, "CEDILLA"), (0xB9, "SUPERSCRIPT ONE"),
  (0xBA, "MASCULINE ORDINAL INDICATOR"), (0xBB, "RIGHT-POINTING DOUBLE ANGLE QUOTATION MARK"),
  (0xBC, "VULGAR FRACTION ONE QUARTER"), (0xBD, "VULGAR FRACTION ONE HALF"),
  (0xBE, "VULGAR FRACTION THREE QUARTERS"), (0xBF, "INVERTED QUESTION MARK"),
  (0xC6, "LATIN CAPITAL LETTER AE"), (0xD0, "LATIN CAPITAL LETTER ETH"),
  (0xD7, "MULTIPLICATION SIGN"), (0xD8, "LATIN CAPITAL LETTER O WITH STROKE"),
  (0xDE, "LATIN CAPITAL LETTER THORN"), (0xDF, "LATIN SMALL LETTER SHARP S"),
  (0xE6, "LATIN SMALL LETTER AE"), (0xF0, "LATIN SMALL LETTER ETH"), (0xF7, "DIVISION SIGN"),
  (0xF8, "LATIN SMALL LETTER O WITH STROKE"), (0xFE, "LATIN SMALL LETTER THORN"),
  (0x131, "LATIN SMALL LETTER DOTLESS I"), (0x141, "LATIN CAPITAL LETTER L WITH STROKE"),
  (0x142, "LATIN SMALL LETTER L WITH STROKE"), (0x152, "LATIN CAPITAL LIGATURE OE"),
  (0x153, "LATIN SMALL LIGATURE OE"), (0x2010, "HYPHEN"), (0x2011, "NON-BREAKING HYPHEN"),
  (0x2012, "FIGURE DASH"), (0x2013, "EN DASH"), (0x2014, "EM DASH"), (0x2015, "HORIZONTAL BAR"),
  (0x2016, "DOUBLE VERTICAL LINE"), (0x2017, "DOUBLE LOW LINE"),
  (0x2018, "LEFT SINGLE QUOTATION MARK"), (0x2019, "RIGHT SINGLE QUOTATION MARK"),
  (0x201A, "SINGLE LOW-9 QUOTATION MARK"), (0x201B, "SINGLE HIGH-REVERSED-9 QUOTATION MARK"),
  (0x201C, "LEFT DOUBLE QUOTATION MARK"), (0x201D, "RIGHT DOUBLE QUOTATION MARK"),
  (0x201E, "DOUBLE LOW-9 QUOTATION MARK"), (0x201F, "DOUBLE HIGH-REVERSED-9 QUOTATION MARK"),
  (0x2020, "DAGGER"), (0x2021, "DOUBLE DAGGER"), (0x2022, "BULLET"), (0x2023, "TRIANGULAR BULLET"),
  (0x2024, "ONE DOT LEADER"), (0x2025, "TWO DOT LEADER"), (0x2026, "HORIZONTAL ELLIPSIS"),
  (0x2027, "HYPHENATION POINT"), (0x2030, "PER MILLE SIGN"), (0x2032, "PRIME"),
  (0x2033, "DOUBLE PRIME"), (0x2039, "SINGLE LEFT-POINTING ANGLE QUOTATION MARK"),
  (0x203A, "SINGLE RIGHT-POINTING ANGLE QUOTATION MARK"), (0x20AC, "EURO SIGN"),
  (0x20B9, "INDIAN RUPEE SIGN"), (0x20BD, "RUBLE SIGN"), (0x20BF, "BITCOIN SIGN"),
  (0x2116, "NUMERO SIGN"), (0x2122, "TRADE MARK SIGN"), (0x2190, "LEFTWARDS ARROW"),
  (0x2191, "UPWARDS ARROW"), (0x2192, "RIGHTWARDS ARROW"), (0x2193, "DOWNWARDS ARROW"),
  (0x2194, "LEFT RIGHT ARROW"), (0x21D2, "RIGHTWARDS DOUBLE ARROW"),
  (0x21D4, "LEFT RIGHT DOUBLE ARROW"), (0x2200, "FOR ALL"), (0x2203, "THERE EXISTS"),
  (0x2205, "EMPTY SET"), (0x2208, "ELEMENT OF"), (0x2211, "N-ARY SUMMATION"),
  (0x221A, "SQUARE ROOT"), (0x221E, "INFINITY"), (0x2227, "LOGICAL AND"), (0x2228, "LOGICAL OR"),
  (0x2229, "INTERSECTION"), (0x222A, "UNION"), (0x222B, "INTEGRAL"), (0x2248, "ALMOST EQUAL TO"),
  (0x2260, "NOT EQUAL TO"), (0x2264, "LESS-THAN OR EQUAL TO"),
  (0x2265, "GREATER-THAN OR EQUAL TO"), (0x25A0, "BLACK SQUARE"), (0x25CB, "WHITE CIRCLE"),
  (0x25CF, "BLACK CIRCLE"), (0x2605, "BLACK STAR"), (0x2606, "WHITE STAR"), (0x2610, "BALLOT BOX"),
  (0x2611, "BALLOT BOX WITH CHECK"), (0x2713, "CHECK MARK"), (0x2714, "HEAVY CHECK MARK"),
  (0x2717, "BALLOT X"), (0x2718, "HEAVY BALLOT X"), (0x2764, "HEAVY BLACK HEART"),
  (0xFFFD, "REPLACEMENT CHARACTER"), (0x1F389, "PARTY POPPER"), (0x1F40D, "SNAKE"),
  (0x1F600, "GRINNING FACE"), (0x1F680, "ROCKET")]

/-- The letters of the Greek alphabet in the order of their code points, with the sigma at the end
of words before the other one. -/
def greekLetters : List String := [
  "ALPHA", "BETA", "GAMMA", "DELTA", "EPSILON", "ZETA", "ETA", "THETA", "IOTA", "KAPPA", "LAMDA",
  "MU", "NU", "XI", "OMICRON", "PI", "RHO", "FINAL SIGMA", "SIGMA", "TAU", "UPSILON", "PHI", "CHI",
  "PSI", "OMEGA"]

/-- The marks that a Latin letter can come with. -/
def markNames : List (String × Nat) := [
  ("GRAVE", 0x300), ("ACUTE", 0x301), ("CIRCUMFLEX", 0x302), ("TILDE", 0x303), ("MACRON", 0x304),
  ("BREVE", 0x306), ("DOT ABOVE", 0x307), ("DIAERESIS", 0x308), ("HOOK ABOVE", 0x309),
  ("RING ABOVE", 0x30A), ("DOUBLE ACUTE", 0x30B), ("CARON", 0x30C), ("HORN", 0x31B),
  ("DOT BELOW", 0x323), ("CEDILLA", 0x327), ("OGONEK", 0x328)]

/-- A letter with the marks of the given names put on it. -/
def withMarks? (letter : Char) (marks : List String) : Option Char :=
  marks.foldlM (fun c mark => do composePair? c (Char.ofNat (← markNames.lookup mark))) letter

/-- The marks that words name, in the order in which they are put on a letter. Names put a dot below
after a circumflex or a breve, letters before it. -/
def marksOf (words : List String) : List String :=
  match (words.splitOnP (· == "AND")).map (" ".intercalate ·) with
  | [a, b] =>
    if (["CIRCUMFLEX", "BREVE"].contains a ∧ b = "DOT BELOW") ∨
        (a = "DOT BELOW" ∧ ["CIRCUMFLEX", "BREVE"].contains b) then [b, a]
    else [a, b]
  | marks => marks

/-- The letter with a name of the given words. -/
def letter? : (words : List String) → Option Char
  | "LATIN" :: size :: "LETTER" :: letter :: rest => do
    let [c] ← some letter.toList | none
    if !c.isUpper then none
    let c ← if size = "CAPITAL" then some c else if size = "SMALL" then some c.toLower else none
    match rest with
    | [] => some c
    | "WITH" :: marks => withMarks? c (marksOf marks)
    | _ => none
  | "GREEK" :: size :: "LETTER" :: letter => do
    let i ← greekLetters.idxOf? (" ".intercalate letter)
    -- there is no capital form of the sigma at the end of words
    if size = "SMALL" then some (Char.ofNat (0x3B1 + i))
    else if size = "CAPITAL" ∧ i ≠ 17 then some (Char.ofNat (0x391 + i))
    else none
  | _ => none

/-- The character that a name stands for. -/
def named? (name : Text) : Option Char :=
  let name := name.map Char.toUpper
  match signNames.find? (·.2.toList = name) with
  | some (n, _) => some (Char.ofNat n)
  | none => letter? ((splitAtChar ' ' name).map String.ofList)

end Stencil.Text
