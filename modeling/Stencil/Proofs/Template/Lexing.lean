import Stencil.Proofs.Template.CloseSearch
import Stencil.Template.Lexeme

/-!
# Lexemes as a relation

`Starts` says which lexeme a text starts with, and `Lexes` which lexemes it is made of, without
offsets. Main statements: `lexemesFrom_eq_ok_iff`, reading a text succeeds with exactly the lexemes
that it is made of, and `Lexes.source_middle`, any run of neighbouring lexemes is what its own
source is made of.
-/

namespace Stencil.Template

open Text

/-- The text `s` starts with the lexeme `l` and goes on with `rest`. -/
inductive Starts (rules : BlockRules) : Text → Lexeme → Text → Prop
  | escapedOpen {rest : Text} :
      Starts rules (rules.opening ++ (rules.opening ++ rest)) .escapedOpen rest
  | block {inside body rest : Text} (hopen : ¬ rules.opening <+: inside)
      (hclose : Closes rules 0 inside body rest) :
      Starts rules (rules.opening ++ inside) (.block body) rest
  | escapedClose {rest : Text}
      (hopen : ¬ rules.opening <+: rules.closing ++ rules.closing ++ rest) :
      Starts rules (rules.closing ++ rules.closing ++ rest) .escapedClose rest
  | char {c : Char} {rest : Text} (hopen : ¬ rules.opening <+: c :: rest)
      (hclose : ¬ rules.closing ++ rules.closing <+: c :: rest) :
      Starts rules (c :: rest) (.char c) rest

/-- The text `s` is made of the lexemes `ls`. -/
inductive Lexes (rules : BlockRules) : Text → List Lexeme → Prop
  | nil : Lexes rules [] []
  | cons {s rest : Text} {l : Lexeme} {ls : List Lexeme} (h : Starts rules s l rest)
      (more : Lexes rules rest ls) : Lexes rules s (l :: ls)

/-- The source of several lexemes. -/
def sourceOf (rules : BlockRules) (ls : List Lexeme) : Text := ls.flatMap (Lexeme.source rules)

@[simp] theorem sourceOf_cons (rules : BlockRules) (l : Lexeme) (ls : List Lexeme) :
    sourceOf rules (l :: ls) = l.source rules ++ sourceOf rules ls := rfl

@[simp] theorem sourceOf_append (rules : BlockRules) (ls ms : List Lexeme) :
    sourceOf rules (ls ++ ms) = sourceOf rules ls ++ sourceOf rules ms :=
  List.flatMap_append

theorem Starts.append {rules : BlockRules} {s rest : Text} {l : Lexeme}
    (h : Starts rules s l rest) : s = l.source rules ++ rest := by
  cases h with
  | escapedOpen => simp [Lexeme.source]
  | block hopen hclose => simp [Lexeme.source, hclose.append]
  | escapedClose hopen => simp [Lexeme.source]
  | char hopen hclose => rfl

theorem Lexes.append {rules : BlockRules} {s : Text} {ls : List Lexeme} (h : Lexes rules s ls) :
    s = sourceOf rules ls := by
  induction h with
  | nil => rfl
  | cons h _ ih => rw [sourceOf_cons, ← ih, ← h.append]

/-! ## Reading and the relation -/

@[simp] theorem offset_toParseError (rules : BlockRules) (pos : Nat) (e : CloseError) :
    (e.toParseError rules pos).offset = pos := by
  cases e <;> rfl

/-- What reading does at an open delimiter. -/
theorem lexemesFrom_opening (rules : BlockRules) (pos : Nat) (inside : Text) :
    lexemesFrom rules pos (rules.opening ++ inside) =
      match after? rules.opening inside with
      | some rest =>
        (lexemesFrom rules (pos + 2 * rules.opening.length) rest).map (.escapedOpen :: ·)
      | none =>
        match findClose rules 0 inside with
        | .error e => .error (e.toParseError rules pos)
        | .ok (body, rest) =>
          (lexemesFrom rules (pos + (rules.opening.length + body.length + rules.closing.length))
            rest).map (.block body :: ·) := by
  have hafter : after? rules.opening (rules.opening ++ inside) = some inside := after?_append _ _
  -- reading goes by the first character, which is that of the delimiter
  obtain ⟨a, p, hp⟩ := List.exists_cons_of_ne_nil rules.opening_ne
  rw [hp, List.cons_append, ← hp] at hafter ⊢
  rw [lexemesFrom]
  split
  · rename_i found ho
    obtain rfl : inside = found := by simpa [hafter] using ho
    split
    · rename_i rest hd
      rw [hd]
    · rename_i hd
      rw [hd]
      split <;> rename_i hf <;> rw [hf]
  · rename_i ho
    simp [hafter] at ho

/-- What reading does where no open delimiter stands. -/
theorem lexemesFrom_of_not_opening {rules : BlockRules} {c : Char} {s : Text}
    (h : ¬ rules.opening <+: c :: s) (pos : Nat) :
    lexemesFrom rules pos (c :: s) =
      match after? (rules.closing ++ rules.closing) (c :: s) with
      | some rest =>
        (lexemesFrom rules (pos + 2 * rules.closing.length) rest).map (.escapedClose :: ·)
      | none => (lexemesFrom rules (pos + 1) s).map (.char c :: ·) := by
  rw [lexemesFrom]
  split
  · rename_i found ho
    exact absurd ⟨found, (after?_eq_some_iff.1 ho).symm⟩ h
  · split <;> rename_i hc <;> rw [hc]

theorem lexemesFrom_eq_ok_iff {rules : BlockRules} {pos : Nat} {s : Text} {ls : List Lexeme} :
    lexemesFrom rules pos s = .ok ls ↔ Lexes rules s ls := by
  constructor
  · intro h
    -- each case in which the reader goes on is a rule of the relation
    fun_induction lexemesFrom rules pos s generalizing ls with
    | case1 =>
      obtain rfl : [] = ls := by simpa using h
      exact .nil
    | case2 pos c s inside ho rest hd ih =>
      obtain ⟨ls', hl, rfl⟩ := map_eq_ok_iff.1 h
      rw [after?_eq_some_iff.1 ho, after?_eq_some_iff.1 hd]
      exact .cons .escapedOpen (ih hl)
    | case3 => simp at h
    | case4 pos c s inside ho hd body rest hf size =>
      rename_i ih
      obtain ⟨ls', hl, rfl⟩ := map_eq_ok_iff.1 h
      rw [after?_eq_some_iff.1 ho]
      exact .cons (.block (after?_eq_none_iff.1 hd) (findClose_eq_ok_iff.1 hf)) (ih hl)
    | case5 pos c s ho rest hc ih =>
      obtain ⟨ls', hl, rfl⟩ := map_eq_ok_iff.1 h
      rw [after?_eq_some_iff.1 hc] at ho ⊢
      exact .cons (.escapedClose (after?_eq_none_iff.1 ho)) (ih hl)
    | case6 pos c s ho hc ih =>
      obtain ⟨ls', hl, rfl⟩ := map_eq_ok_iff.1 h
      exact .cons (.char (after?_eq_none_iff.1 ho) (after?_eq_none_iff.1 hc)) (ih hl)
  · intro h
    -- what a rule excludes is what the reader would have tried first
    induction h generalizing pos with
    | nil => rw [lexemesFrom]
    | cons h _ ih =>
      cases h with
      | escapedOpen =>
        rw [lexemesFrom_opening, after?_append]
        simp only [ih]
        rfl
      | block hopen hclose =>
        rw [lexemesFrom_opening, after?_eq_none_iff.2 hopen]
        simp only [hclose.findClose_eq, ih]
        rfl
      | escapedClose hopen =>
        rename_i rest _ _
        have hafter := after?_append (rules.closing ++ rules.closing) rest
        obtain ⟨c, p, hp⟩ := List.exists_cons_of_ne_nil rules.closing_ne
        have hcons :
            rules.closing ++ rules.closing ++ rest = c :: (p ++ rules.closing ++ rest) := by
          rw [hp]
          rfl
        rw [hcons] at hopen hafter ⊢
        rw [lexemesFrom_of_not_opening hopen, hafter]
        simp only [ih]
        rfl
      | char hopen hclose =>
        rw [lexemesFrom_of_not_opening hopen, after?_eq_none_iff.2 hclose]
        simp only [ih]
        rfl

/-! ## Cutting a text between lexemes -/

/-- A lexeme is still read when the text after it is replaced, as far as no delimiter newly starts
in front of it. -/
theorem Starts.swap {rules : BlockRules} {s r t : Text} {l : Lexeme}
    (ho : NoNewStart rules.opening r t) (hc : NoNewStart rules.closing r t)
    (hcc : NoNewStart (rules.closing ++ rules.closing) r t) (h : Starts rules s l r) :
    Starts rules (l.source rules ++ t) l t := by
  cases h with
  | escapedOpen =>
    have := @Starts.escapedOpen rules t
    simpa [Lexeme.source] using this
  | @block inside body r hopen hclose =>
    have hswap := hclose.swap ho hc
    -- no second open delimiter starts in the block, since its body and end are kept
    have hopen' : ¬ rules.opening <+: body ++ rules.closing ++ t := by
      intro hp
      have hne : body ++ rules.closing ≠ [] := by simp [rules.closing_ne]
      rw [hclose.append] at hopen
      exact hopen (ho _ hne hp)
    have := Starts.block hopen' hswap
    simpa [Lexeme.source] using this
  | escapedClose hopen =>
    have hne : rules.closing ++ rules.closing ≠ [] := by simp [rules.closing_ne]
    have := @Starts.escapedClose rules t fun hp => hopen (ho _ hne hp)
    simpa [Lexeme.source] using this
  | @char c r hopen hclose =>
    exact .char (fun hp => hopen (ho [c] (by simp) hp)) fun hp => hclose (hcc [c] (by simp) hp)

/-- The text starts with the lexemes and goes on with `left`. -/
inductive Begins (rules : BlockRules) : Text → List Lexeme → (left : Text) → Prop
  | nil {left : Text} : Begins rules left [] left
  | cons {s rest left : Text} {l : Lexeme} {ls : List Lexeme} (h : Starts rules s l rest)
      (more : Begins rules rest ls left) : Begins rules s (l :: ls) left

theorem Begins.append {rules : BlockRules} {s left : Text} {ls : List Lexeme}
    (h : Begins rules s ls left) : s = sourceOf rules ls ++ left := by
  induction h with
  | nil => rfl
  | cons h _ ih => rw [sourceOf_cons, List.append_assoc, ← ih, ← h.append]

/-- The lexemes that a text starts with are what their own source is made of. -/
theorem Begins.lexes_source {rules : BlockRules} {s left : Text} {ls : List Lexeme}
    (h : Begins rules s ls left) : Lexes rules (sourceOf rules ls) ls := by
  induction h with
  | nil => exact .nil
  | @cons s rest left l ls hstart more ih =>
    -- less text follows each lexeme than before, and less text starts nothing new
    have hcut : sourceOf rules ls <+: rest := by
      rw [more.append]
      exact List.prefix_append _ _
    refine .cons (hstart.swap ?_ ?_ ?_) ih
    all_goals exact noNewStart_of_isPrefix _ hcut

theorem Lexes.begins {rules : BlockRules} {s : Text} {ls ms : List Lexeme}
    (h : Lexes rules s (ls ++ ms)) : Begins rules s ls (sourceOf rules ms) := by
  induction ls generalizing s with
  | nil => exact h.append ▸ .nil
  | cons l ls ih =>
    cases h with
    | cons hstart more => exact .cons hstart (ih more)

/-- The first lexemes of a text are what their own source is made of. -/
theorem Lexes.source_left {rules : BlockRules} {s : Text} {ls ms : List Lexeme}
    (h : Lexes rules s (ls ++ ms)) : Lexes rules (sourceOf rules ls) ls :=
  h.begins.lexes_source

/-- The last lexemes of a text are what their own source is made of. -/
theorem Lexes.source_right {rules : BlockRules} {s : Text} {ls ms : List Lexeme}
    (h : Lexes rules s (ls ++ ms)) : Lexes rules (sourceOf rules ms) ms := by
  induction ls generalizing s with
  | nil => exact h.append ▸ h
  | cons l ls ih =>
    cases h with
    | cons hstart more => exact ih more

/-- Neighbouring lexemes of a text are what their own source is made of. -/
theorem Lexes.source_middle {rules : BlockRules} {s : Text} {ls ms ns : List Lexeme}
    (h : Lexes rules s (ls ++ (ms ++ ns))) : Lexes rules (sourceOf rules ms) ms :=
  h.source_right.source_left

end Stencil.Template
