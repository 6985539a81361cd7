import Mathlib.Data.List.Basic
import Stencil.Quote.Shell

/-!
# Quoted arguments as words

How the POSIX shell takes a command line apart: white space ends a word, what stands between single
quotes is taken as it is, a backslash keeps the next character from being special, and parts without
white space between them make up one word. The reader goes over the line character by character
(`Reader.step`). Main statement: `splitWords_join_quote`, arguments that are quoted and joined with
spaces are read back as they were.
-/

namespace Stencil.Shell

/-! ## Reading words -/

/-- Where a reader stands: between words, inside a word, between single or double quotes, or behind
a backslash inside a word or between double quotes. -/
inductive Place
  | between
  | bare
  | single
  | double
  | escaped
  | escapedDouble
  deriving DecidableEq, Repr

/-- A reader of a command line: where it stands, what it has read of the current word, and the words
before that one. -/
structure Reader where
  place : Place
  word : Text
  words : List Text
  deriving DecidableEq, Repr

namespace Reader

/-- The characters that end a word. -/
def isSeparator (c : Char) : Bool := c = ' ' || c = '\t' || c = '\r' || c = '\n'

/-- A reader that has read nothing after the given words. -/
def start (words : List Text) : Reader := ⟨.between, [], words⟩

/-- A reader inside a word, which goes on in the same way with `c`. -/
def add (r : Reader) (place : Place) (c : Char) : Reader := ⟨place, r.word ++ [c], r.words⟩

/-- A reader inside a word, before a character that no quote protects. -/
def stepBare (r : Reader) (c : Char) : Reader :=
  if c = '\\' then { r with place := .escaped }
  else if c = '\'' then { r with place := .single }
  else if c = '"' then { r with place := .double }
  else r.add .bare c

/-- The reader after one more character. Between double quotes a backslash is special only before a
double quote or another backslash. -/
def step (r : Reader) (c : Char) : Reader :=
  match r.place with
  | .between => if isSeparator c then r else r.stepBare c
  | .bare => if isSeparator c then start (r.words ++ [r.word]) else r.stepBare c
  | .single => if c = '\'' then { r with place := .bare } else r.add .single c
  | .double =>
    if c = '"' then { r with place := .bare }
    else if c = '\\' then { r with place := .escapedDouble }
    else r.add .double c
  | .escaped => r.add .bare c
  | .escapedDouble =>
    if c = '"' ∨ c = '\\' then r.add .double c else (r.add .double '\\').add .double c

/-- The reader after a text. -/
def run (r : Reader) (s : Text) : Reader := s.foldl step r

/-- The words of a line that ends here; nothing if a quote is left open or a backslash has no
character after it. -/
def finish (r : Reader) : Option (List Text) :=
  match r.place with
  | .between => some r.words
  | .bare => some (r.words ++ [r.word])
  | _ => none

@[simp] theorem run_nil (r : Reader) : r.run [] = r := rfl

@[simp] theorem run_cons (r : Reader) (c : Char) (s : Text) : r.run (c :: s) = (r.step c).run s :=
  rfl

@[simp] theorem run_append (r : Reader) (s t : Text) : r.run (s ++ t) = (r.run s).run t :=
  List.foldl_append

end Reader

/-- The words of a command line. -/
def splitWords (line : Text) : Option (List Text) := ((Reader.start []).run line).finish

/-! ## Safe words -/

open Reader

/-- A safe character neither ends a word nor is special. -/
theorem stepBare_of_isSafe {c : Char} (h : isSafe c = true) (r : Reader) :
    isSeparator c = false ∧ r.stepBare c = r.add .bare c := by
  have hne (d : Char) (hd : isSafe d = false) : c ≠ d := by
    rintro rfl
    rw [h] at hd
    exact absurd hd (by simp)
  have hsep : isSeparator c = false := by
    simp [isSeparator, hne ' ' (by decide), hne '\t' (by decide), hne '\r' (by decide),
      hne '\n' (by decide)]
  refine ⟨hsep, ?_⟩
  simp [stepBare, hne '\\' (by decide), hne '\'' (by decide), hne '"' (by decide)]

/-- Safe characters go on with the word that the reader is inside. -/
theorem run_safe {s : Text} (h : s.all isSafe = true) (word : Text) (words : List Text) :
    (Reader.mk .bare word words).run s = ⟨.bare, word ++ s, words⟩ := by
  induction s generalizing word with
  | nil => simp
  | cons c s ih =>
    rw [List.all_cons, Bool.and_eq_true] at h
    obtain ⟨hsep, hbare⟩ := stepBare_of_isSafe h.1 ⟨.bare, word, words⟩
    have hstep : (Reader.mk .bare word words).step c = ⟨.bare, word ++ [c], words⟩ := by
      simp [step, hsep, hbare, add]
    rw [run_cons, hstep, ih h.2, List.append_assoc, List.singleton_append]

/-! ## Quoted words -/

/-- How a single quote is written inside single quotes: the quotes end, a single quote between
double quotes follows, and new quotes start. -/
def quotedQuote : Text := ['\'', '"', '\'', '"', '\'']

theorem run_quotedQuote (word : Text) (words : List Text) :
    (Reader.mk .single word words).run quotedQuote = ⟨.single, word ++ ['\''], words⟩ := rfl

/-- What is written between single quotes goes on with the word as it was meant. -/
theorem run_quoted (s word : Text) (words : List Text) :
    (Reader.mk .single word words).run (Text.replaceChar '\'' quotedQuote s) =
      ⟨.single, word ++ s, words⟩ := by
  induction s generalizing word with
  | nil => simp [Text.replaceChar]
  | cons c s ih =>
    have hcons : Text.replaceChar '\'' quotedQuote (c :: s) =
        (if c = '\'' then quotedQuote else [c]) ++ Text.replaceChar '\'' quotedQuote s := rfl
    have hchar : (Reader.mk .single word words).run (if c = '\'' then quotedQuote else [c]) =
        ⟨.single, word ++ [c], words⟩ := by
      by_cases hc : c = '\''
      · rw [if_pos hc, run_quotedQuote, hc]
      · simp [hc, step, add]
    rw [hcons, run_append, hchar, ih, List.append_assoc, List.singleton_append]

/-! ## Arguments -/

/-- Between words, a quoted text is read as one word that is the text. -/
theorem run_quoteSh (s : Text) (words : List Text) :
    (start words).run (quoteSh s) = ⟨.bare, s, words⟩ := by
  unfold quoteSh
  split
  · rename_i h
    -- the first character opens the word, the others go on with it
    obtain ⟨c, s, rfl⟩ := List.exists_cons_of_ne_nil h.1
    have hall := h.2
    rw [List.all_cons, Bool.and_eq_true] at hall
    obtain ⟨hsep, hbare⟩ := stepBare_of_isSafe hall.1 (start words)
    have hstep : (start words).step c = ⟨.bare, [c], words⟩ := by
      simp [step, start, hsep] at hbare ⊢
      exact hbare
    rw [run_cons, hstep, run_safe hall.2, List.singleton_append]
  · have hopen : (start words).step '\'' = ⟨.single, [], words⟩ := rfl
    rw [List.cons_append, run_cons, hopen, run_append]
    have hbody := run_quoted s [] words
    rw [quotedQuote, List.nil_append] at hbody
    rw [hbody]
    rfl

/-- Reading on after words, quoted arguments that are joined with spaces give those arguments. -/
theorem run_join_quoteSh (s : Text) (rest : List Text) (words : List Text) :
    (start words).run (Text.joinWith [' '] ((s :: rest).map quoteSh)) =
      ⟨.bare, (s :: rest).getLast (by simp), words ++ (s :: rest).dropLast⟩ := by
  induction rest generalizing s words with
  | nil => simpa [Text.joinWith] using run_quoteSh s words
  | cons t rest ih =>
    have hjoin : Text.joinWith [' '] ((s :: t :: rest).map quoteSh) =
        quoteSh s ++ [' '] ++ Text.joinWith [' '] ((t :: rest).map quoteSh) := rfl
    -- the space ends the word of `s` and brings the reader back to where it started
    have hspace : (Reader.mk .bare s words).run [' '] = start (words ++ [s]) := rfl
    rw [hjoin, run_append, run_append, run_quoteSh, hspace, ih]
    simp

/-- Arguments of any kind, quoted for the POSIX shell and joined with spaces, are split into exactly
those arguments. -/
theorem splitWords_join_quote (arguments : List Text) :
    splitWords (Text.joinWith [' '] (arguments.map sh.quote)) = some arguments := by
  cases arguments with
  | nil => rfl
  | cons s rest =>
    have hrun := run_join_quoteSh s rest []
    have hquote : (s :: rest).map sh.quote = (s :: rest).map quoteSh := rfl
    rw [splitWords, hquote, hrun, finish, List.nil_append, List.dropLast_append_getLast]

end Stencil.Shell
