import Stencil.Template.Quoted
import Stencil.Text.Blank

/-!
# The top level of an expression

Where a character last occurs in an expression outside strings, comments and brackets, and how a
block is split there into an expression and a format.
-/

namespace Stencil.Template

/-- The search goes on at offset `pos` with `depth` brackets open. Brackets of all kinds count
alike, and a closing one too many is ignored. A string that never ends hides the rest. -/
def lastTopLevelFrom (target : Text) (literal : Bool) (comment : Text)
    (pos depth : Nat) (found : Option Nat) : Text → Option Nat
  | [] => found
  | c :: s =>
    if !literal && isQuote c then
      match _h : quoted? c s with
      | none => found
      | some (span, rest) =>
        lastTopLevelFrom target literal comment (pos + span.length) depth found rest
    else if !literal && comment = [c] then
      let skipped := (s.takeWhile (· ≠ '\n')).length
      lastTopLevelFrom target literal comment (pos + 1 + skipped) depth found
        (s.dropWhile (· ≠ '\n'))
    else if c = '(' || c = '[' || c = '\x7b' then
      lastTopLevelFrom target literal comment (pos + 1) (depth + 1) found s
    else if c = ')' || c = ']' || c = '\x7d' then
      lastTopLevelFrom target literal comment (pos + 1) (depth - 1) found s
    else
      let found := if target = [c] ∧ depth = 0 then some pos else found
      lastTopLevelFrom target literal comment (pos + 1) depth found s
termination_by s => s.length
decreasing_by
  · exact length_lt_of_quoted? _h
  · have := (List.dropWhile_suffix (l := s) (· ≠ '\n')).length_le
    simp only [List.length_cons]
    omega
  all_goals simp

/-- The offset of the last occurrence of `target`, a single character, at the top level. With
`literal` set, quotes and comments are ordinary characters. -/
def lastTopLevel? (target : Text) (literal : Bool) (comment text : Text) : Option Nat :=
  lastTopLevelFrom target literal comment 0 0 none text

/-- A block split at its last colon at the top level into an expression and a format, which loses
its surrounding white space; without such a colon it is all expression. -/
def splitFormat (text : Text) : Text × Option Text :=
  match lastTopLevel? [':'] false ['#'] text with
  | none => (text, none)
  | some colon => (text.take colon, some (Text.strip (text.drop (colon + 1))))

end Stencil.Template
