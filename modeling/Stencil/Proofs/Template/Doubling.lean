import Mathlib.Data.List.Chain
import Stencil.Proofs.Template.Source

/-!
# Templates written from their parts

A template with single-character delimiters can be written from a list of parts: literal texts, in
which every delimiter is doubled, and blocks. Main statement: `parse_source_parts`, such a template
parses to exactly its parts. A block of a part has to end where it should when it stands alone
(`Part.Sound`), and no two literal parts may be neighbours, since they would come back as one.
-/

namespace Stencil.Template

open Text

/-- A part of a template: literal text, or an expression that stands in a block. -/
inductive Part
  | literal (text : Text)
  | block (body : Text)
  deriving DecidableEq, Repr

/-- A text with every occurrence of the delimiters `o` and `c` doubled. -/
def doubled (o c : Char) (s : Text) : Text :=
  s.flatMap fun x => if x = o ∨ x = c then [x, x] else [x]

namespace Part

/-- How a part is written between the delimiters `o` and `c`. -/
def source (o c : Char) : Part → Text
  | .literal text => doubled o c text
  | .block body => o :: (body ++ [c])

/-- The segment of a part whose source starts at offset `pos`. -/
def segment (o c : Char) (pos : Nat) : Part → Segment
  | .literal text => .literal text (doubled o c text)
  | .block body => .expression body pos (pos + (body.length + 2))

/-- The segments of parts whose source starts at offset `pos`. -/
def segments (o c : Char) (pos : Nat) : List Part → List Segment
  | [] => []
  | p :: ps => p.segment o c pos :: segments o c (pos + (p.source o c).length) ps

/-- A part that can be written: a literal text that is not empty, or an expression that is not
blank, does not start with the open delimiter, and ends at the close delimiter after it. -/
def Sound (rules : BlockRules) : Part → Prop
  | .literal text => text ≠ []
  | .block body =>
    allBlank body = false ∧ startsWith rules.opening body = false ∧
      findClose rules 0 (body ++ rules.closing) = .ok (body, [])

def isLiteral : Part → Bool
  | .literal _ => true
  | .block _ => false

/-- Two literal texts that are not neighbours. -/
def Apart (p q : Part) : Prop := ¬ (p.isLiteral = true ∧ q.isLiteral = true)

end Part

/-! ## Doubled delimiters -/

variable {rules : BlockRules} {o c : Char}

/-- The lexeme that a character of literal text is written as. -/
def charLexeme (o c x : Char) : Lexeme :=
  if x = o then .escapedOpen else if x = c then .escapedClose else .char x

theorem doubled_cons (x : Char) (s : Text) :
    doubled o c (x :: s) = doubled o c [x] ++ doubled o c s := by
  simp [doubled]

theorem source_charLexeme (ho : rules.opening = [o]) (hc : rules.closing = [c]) (x : Char) :
    (charLexeme o c x).source rules = doubled o c [x] := by
  unfold charLexeme
  split
  · subst x
    simp [Lexeme.source, ho, doubled]
  · split
    · subst x
      simp [Lexeme.source, hc, doubled]
    · simp [Lexeme.source, doubled, *]

theorem literal?_charLexeme (ho : rules.opening = [o]) (hc : rules.closing = [c]) (x : Char) :
    (charLexeme o c x).literal? rules = some [x] := by
  unfold charLexeme
  split
  · subst x
    rw [Lexeme.literal?, ho]
  · split
    · subst x
      rw [Lexeme.literal?, hc]
    · rfl

/-- A character of literal text is read back, whatever follows. -/
theorem starts_charLexeme (ho : rules.opening = [o]) (hc : rules.closing = [c]) (x : Char)
    (rest : Text) : Starts rules (doubled o c [x] ++ rest) (charLexeme o c x) rest := by
  rw [← source_charLexeme ho hc]
  unfold charLexeme
  split
  · have := @Starts.escapedOpen rules rest
    simpa [Lexeme.source] using this
  · rename_i hxo
    split
    · subst x
      refine .escapedClose ?_
      simp [ho, hc, Ne.symm hxo]
    · rename_i hxc
      refine .char ?_ ?_
      · simp [ho, Ne.symm hxo]
      · simp [hc, Ne.symm hxc]

theorem lexes_doubled (ho : rules.opening = [o]) (hc : rules.closing = [c]) (s : Text) {rest : Text}
    {ls : List Lexeme} (h : Lexes rules rest ls) :
    Lexes rules (doubled o c s ++ rest) (s.map (charLexeme o c) ++ ls) := by
  induction s with
  | nil => exact h
  | cons x s ih =>
    rw [doubled_cons, List.append_assoc]
    exact .cons (starts_charLexeme ho hc x _) ih

/-- A block that ends where it should when it stands alone does so in front of any text. -/
theorem lexes_block (ho : rules.opening = [o]) (hc : rules.closing = [c]) {body rest : Text}
    {ls : List Lexeme} (hsound : (Part.block body).Sound rules) (h : Lexes rules rest ls) :
    Lexes rules ((Part.block body).source o c ++ rest) (.block body :: ls) := by
  obtain ⟨hblank, hstart, hclose⟩ := hsound
  have hswap : Closes rules 0 (body ++ rules.closing ++ rest) body rest :=
    (findClose_eq_ok_iff.1 hclose).swap (ho ▸ noNewStart_singleton o [] rest)
      (hc ▸ noNewStart_singleton c [] rest)
  -- a delimiter of one character starts in the body or nowhere in front of what follows
  have hopen : ¬ rules.opening <+: body ++ rules.closing ++ rest := by
    cases body with
    | nil => simp [allBlank] at hblank
    | cons x body =>
      have hx : ¬ rules.opening <+: x :: body := by
        rw [← startsWith_iff, hstart]
        simp
      simpa [ho] using hx
  have := Starts.block hopen hswap
  rw [ho, hc] at this
  have hsource : (Part.block body).source o c ++ rest = [o] ++ (body ++ [c] ++ rest) := by
    simp [Part.source]
  rw [hsource]
  exact .cons this h

/-! ## Segments of written parts -/

/-- The characters of a literal text make up one literal. -/
theorem segmentsFrom_doubled (ho : rules.opening = [o]) (hc : rules.closing = [c]) {s : Text}
    (hs : s ≠ []) (pos : Nat) (ls : List Lexeme) :
    segmentsFrom rules pos (s.map (charLexeme o c) ++ ls) =
      (segmentsFrom rules (pos + (doubled o c s).length) ls).map
        (pushLiteral s (doubled o c s)) := by
  induction s generalizing pos with
  | nil => exact absurd rfl hs
  | cons x s ih =>
    rw [List.map_cons, List.cons_append, segmentsFrom_literal (literal?_charLexeme ho hc x),
      source_charLexeme ho hc]
    -- the last character is the one that meets what follows; the others meet the literal itself
    cases s with
    | nil => rfl
    | cons y s =>
      rw [ih (by simp), doubled_cons x (y :: s), List.length_append, Nat.add_assoc]
      cases segmentsFrom rules
          (pos + ((doubled o c [x]).length + (doubled o c (y :: s)).length)) ls with
      | error e => rfl
      | ok segs =>
        have := pushLiteral_pushLiteral [x] (y :: s) (doubled o c [x]) (doubled o c (y :: s)) segs
        exact congrArg Except.ok this

/-- The lexemes that a part is written as. -/
def Part.lexemes (o c : Char) : Part → List Lexeme
  | .literal text => text.map (charLexeme o c)
  | .block body => [.block body]

theorem lexes_parts (ho : rules.opening = [o]) (hc : rules.closing = [c]) {parts : List Part}
    (hsound : ∀ p ∈ parts, p.Sound rules) :
    Lexes rules (parts.flatMap (Part.source o c)) (parts.flatMap (Part.lexemes o c)) := by
  induction parts with
  | nil => exact .nil
  | cons p parts ih =>
    have hmore := ih fun q hq => hsound q (List.mem_cons_of_mem p hq)
    rw [List.flatMap_cons, List.flatMap_cons]
    cases p with
    | literal text => exact lexes_doubled ho hc text hmore
    | block body => exact lexes_block ho hc (hsound _ (List.mem_cons_self ..)) hmore

theorem pushLiteral_segments {text raw : Text} {parts : List Part} {pos : Nat}
    (h : ∀ p ∈ parts.head?, p.isLiteral = false) :
    pushLiteral text raw (Part.segments o c pos parts) =
      .literal text raw :: Part.segments o c pos parts := by
  cases parts with
  | nil => rfl
  | cons p parts =>
    cases p with
    | literal t => simp [Part.isLiteral] at h
    | block body => rfl

theorem segmentsFrom_parts (ho : rules.opening = [o]) (hc : rules.closing = [c])
    {parts : List Part} (hsound : ∀ p ∈ parts, p.Sound rules) (hapart : parts.IsChain Part.Apart)
    (pos : Nat) :
    segmentsFrom rules pos (parts.flatMap (Part.lexemes o c)) =
      .ok (Part.segments o c pos parts) := by
  induction parts generalizing pos with
  | nil => rfl
  | cons p parts ih =>
    have hmore := ih (fun q hq => hsound q (List.mem_cons_of_mem p hq)) hapart.tail
    have hp := hsound p (List.mem_cons_self ..)
    rw [List.flatMap_cons]
    cases p with
    | literal text =>
      rw [Part.lexemes, segmentsFrom_doubled ho hc hp, hmore]
      -- the literal stays apart from what follows, which is not literal
      refine congrArg Except.ok (pushLiteral_segments fun q hq => ?_)
      have := hapart.rel_head? hq
      simpa [Part.Apart, Part.isLiteral] using this
    | block body =>
      rw [Part.lexemes, List.singleton_append, segmentsFrom_block hp.1, hmore]
      simp only [Except.map, Part.segments, Part.segment, Part.source, Lexeme.source, ho, hc]
      simp

/-- Parts written with single-character delimiters, doubled where they occur in literal text, parse
to exactly those parts. -/
theorem parse_source_parts (ho : rules.opening = [o]) (hc : rules.closing = [c])
    {parts : List Part} (hsound : ∀ p ∈ parts, p.Sound rules)
    (hapart : parts.IsChain Part.Apart) :
    parse rules (parts.flatMap (Part.source o c)) = .ok (Part.segments o c 0 parts) :=
  parse_eq_ok_iff.2 ⟨_, lexes_parts ho hc hsound, segmentsFrom_parts ho hc hsound hapart 0⟩

/-- Delimiters at both ends of the literal texts around two blocks, one of them nested. -/
theorem parse_source_parts_at_boundaries :
    let rules : BlockRules := ⟨['<'], ['>'], false, ['#'], by simp, by simp⟩
    let parts : List Part :=
      [.literal ">a<".toList, .block "x<y>'>'".toList, .literal "><".toList, .block " z".toList]
    (∀ p ∈ parts, p.Sound rules) ∧ parts.IsChain Part.Apart ∧
      parse rules ">>a<<<x<y>'>'>>><<< z>".toList = .ok (Part.segments '<' '>' 0 parts) := by
  intro rules parts
  have hsound : ∀ p ∈ parts, p.Sound rules := by
    intro p hp
    simp only [parts, List.mem_cons, List.not_mem_nil, or_false] at hp
    obtain rfl | rfl | rfl | rfl := hp
    · simp [Part.Sound]
    · exact ⟨by decide, by decide, by decide +kernel⟩
    · simp [Part.Sound]
    · exact ⟨by decide, by decide, by decide +kernel⟩
  have hapart : parts.IsChain Part.Apart := by simp [parts, Part.Apart, Part.isLiteral]
  have hsource : parts.flatMap (Part.source '<' '>') = ">>a<<<x<y>'>'>>><<< z>".toList := by
    decide
  exact ⟨hsound, hapart, hsource ▸ parse_source_parts rfl rfl hsound hapart⟩

end Stencil.Template
