import Stencil.Text.Blank

/-!
# Trimming

Lets a template of several lines be indented along with the text around it. A blank first line is
dropped, then a blank last line; the lines that remain lose their common indentation; a line that
ends in an odd number of backslashes loses the last one and is joined with the next. A first line
that is not blank is kept as written.
-/

namespace Stencil.Template

/-- The characters that indent a line. -/
def isIndent (c : Char) : Bool := c == ' ' || c == '\t'

/-- How many spaces and tabs a line starts with. -/
def indentWidth (line : Text) : Nat := (line.takeWhile isIndent).length

/-- The common indentation of the lines that are not blank, if there are any. -/
def commonIndent (ls : List Text) : Option Nat :=
  ((ls.filter fun l => !Text.allBlank l).map indentWidth).min?

/-- Lines without their common indentation; if all are blank, without any indentation. A blank line
loses no more than it has. -/
def dedent (ls : List Text) : List Text :=
  match commonIndent ls with
  | some width => ls.map fun l => l.drop (min width (indentWidth l))
  | none => ls.map fun l => l.dropWhile isIndent

/-- Lines without the last one, if that is blank. -/
def dropBlankLast (ls : List Text) : List Text :=
  match ls.getLast? with
  | some last => if Text.allBlank last then ls.dropLast else ls
  | none => ls

/-- The lines of a trimmed text: the first line unless it is blank, then the dedented others. -/
def trimmedLines : List Text → List Text
  | [] => []
  | first :: rest =>
    let body := dedent (dropBlankLast rest)
    if Text.allBlank first then body else first :: body

/-! ## Continued lines -/

/-- What is kept of a text's first backslashes, and what follows them, if they continue a line: as
many pairs as there are, which are kept, and then one more and the newline, which are not. -/
def continuation? : Text → Option (Text × Text)
  -- a match with fewer pairs would need the newline where the second backslash is
  | '\\' :: '\\' :: s => (continuation? s).map fun m => ('\\' :: '\\' :: m.1, m.2)
  | '\\' :: '\n' :: s => some ([], s)
  | _ => none

/-- Where a line is continued, its source is what is kept, a backslash, a newline and the rest. -/
theorem eq_of_continuation? {s : Text} {m : Text × Text} (h : continuation? s = some m) :
    s = m.1 ++ '\\' :: '\n' :: m.2 := by
  fun_induction continuation? s generalizing m with
  | case1 s ih =>
    obtain ⟨m', hm', rfl⟩ := Option.map_eq_some_iff.1 h
    simp [ih hm']
  | case2 s =>
    obtain rfl := Option.some.inj h
    rfl
  | case3 => exact absurd h (by simp)

theorem length_lt_of_continuation? {s : Text} {m : Text × Text} (h : continuation? s = some m) :
    m.2.length < s.length := by
  rw [eq_of_continuation? h]
  simp only [List.length_append, List.length_cons]
  omega

/-- A text with its continued lines joined. It comes after the character `before`, if that is not
none, and a backslash after a backslash starts no continuation. -/
def joinContinued (before : Option Char) : Text → Text
  | [] => []
  | c :: s =>
    if before = some '\\' then c :: joinContinued (some c) s
    else match _ : continuation? (c :: s) with
      | some m => m.1 ++ joinContinued (some '\n') m.2
      | none => c :: joinContinued (some c) s
termination_by s => s.length
decreasing_by
  · simp
  · exact length_lt_of_continuation? (by assumption)
  · simp

/-- A text without the white space that only indents it in its surroundings. A text of a single
line is left alone. -/
def trim (text : Text) : Text :=
  match Text.lines text with
  | [_] => text
  | ls => joinContinued none (Text.joinWith ['\n'] (trimmedLines ls))

end Stencil.Template
