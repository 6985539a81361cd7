import Stencil.Text.Blank

/-!
# Marks at the end of a block

A block may end in a mark that asks for its value to be treated in a certain way, such as an
asterisk. Main statement: `remove?_eq_some`, a marked block is what is left of it, then the mark,
then what may follow a mark.
-/

namespace Stencil.Template

/-- A mark, and whether blanks may follow it. Without blanks a mark may still stand before the last
newline. -/
structure Marker where
  mark : Text
  blanks : Bool
  deriving DecidableEq, Repr

namespace Marker

/-- An asterisk that blanks may follow. -/
def star : Marker := ⟨['*'], true⟩

/-- An equals sign that blanks may follow. -/
def equals : Marker := ⟨['='], true⟩

/-- What is left of the text after a mark, if the mark may stand there. -/
def leftAfter? (m : Marker) (rest : Text) : Option Text :=
  if m.blanks then if Text.allBlank rest then some [] else none
  else if rest = [] ∨ rest = ['\n'] then some rest
  else none

/-- The block without the first mark that may stand where it does, if there is one. -/
def remove? (m : Marker) : Text → Option Text
  | [] => none
  | c :: s =>
    match (Text.after? m.mark (c :: s)).bind m.leftAfter? with
    | some rest => some rest
    | none => (m.remove? s).map (c :: ·)

/-- A marked block is a body, the mark, and what may follow it, which is kept unless it is blank. -/
theorem remove?_eq_some {m : Marker} {s t : Text} (h : m.remove? s = some t) :
    ∃ body after left, s = body ++ m.mark ++ after ∧ m.leftAfter? after = some left ∧
      t = body ++ left := by
  induction s generalizing t with
  | nil => simp [remove?] at h
  | cons c s ih =>
    rw [remove?] at h
    split at h
    · rename_i rest hr
      obtain ⟨after, ha, hl⟩ := Option.bind_eq_some_iff.1 hr
      exact ⟨[], after, rest, by simp [Text.after?_eq_some_iff.1 ha], hl,
        by simpa using h.symm⟩
    · obtain ⟨t', ht, rfl⟩ := Option.map_eq_some_iff.1 h
      obtain ⟨body, after, left, hs, hl, htl⟩ := ih ht
      exact ⟨c :: body, after, left, by simp [hs], hl, by simp [htl]⟩

/-! ## Patterns -/

/-- The characters that a pattern takes as they are. -/
def isOrdinary (c : Char) : Bool :=
  !(['\\', '^', '$', '.', '|', '?', '*', '+', '(', ')', '[', ']', '\x7b', '\x7d'].contains c)

/-- The mark that a pattern asks for: ordinary characters and others after a backslash, then
optional blanks, then the end of the text. -/
def ofPatternFrom? (mark : Text) : Text → Option Marker
  | ['$'] => some ⟨mark, false⟩
  | ['\\', 's', '*', '$'] => some ⟨mark, true⟩
  | '\\' :: c :: s => if c.isAlphanum then none else ofPatternFrom? (mark ++ [c]) s
  | c :: s => if isOrdinary c then ofPatternFrom? (mark ++ [c]) s else none
  | [] => none

/-- The marker that a pattern describes. -/
def ofPattern? (pattern : Text) : Option Marker :=
  (ofPatternFrom? [] pattern).filter (·.mark ≠ [])

end Marker
end Stencil.Template
