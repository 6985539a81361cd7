import Mathlib.Data.List.Chain
import Stencil.Proofs.Template.Lexing

/-!
# The regions of a template

`Tiles` builds a text from its regions, one after another. From it follow, each by an induction, the
facts that make up a tiling (`Tiling`): the regions cover the text without gaps, blocks have their
parts in order, and a run of ordinary text outside the blocks goes on for as long as it can. Main
statement: `tiling_locate`, scanning a template gives such a tiling.
-/

namespace Stencil.Template

open Text

/-! ## Regions in a row -/

/-- No scan outside the blocks stops in `run` when `rest` follows it: neither an open delimiter nor
a doubled close delimiter stands at any of its characters. -/
def Unbroken (rules : BlockRules) (run rest : Text) : Prop :=
  ∀ u v : Text, run = u ++ v → v ≠ [] →
    ¬ rules.opening <+: v ++ rest ∧ ¬ rules.closing ++ rules.closing <+: v ++ rest

/-- The region of a block's body; an empty body has none. -/
def bodyRegion (body : Text) : List Span := if body = [] then [] else [⟨.plain, body⟩]

/-- The text is made of the regions. -/
inductive Tiles (rules : BlockRules) : Text → List Span → Prop
  | nil : Tiles rules [] []
  | plain {run rest : Text} {more : List Span} (hne : run ≠ []) (hrun : Unbroken rules run rest)
      (hnext : ∀ s ∈ more.head?, s.kind ≠ .plain) (hmore : Tiles rules rest more) :
      Tiles rules (run ++ rest) (⟨.plain, run⟩ :: more)
  | escapedOpen {rest : Text} {more : List Span} (hmore : Tiles rules rest more) :
      Tiles rules (rules.opening ++ rules.opening ++ rest)
        (⟨.escapedOpen, rules.opening ++ rules.opening⟩ :: more)
  | escapedClose {rest : Text} {more : List Span} (hmore : Tiles rules rest more) :
      Tiles rules (rules.closing ++ rules.closing ++ rest)
        (⟨.escapedClose, rules.closing ++ rules.closing⟩ :: more)
  | block {body rest : Text} {more : List Span} (hmore : Tiles rules rest more) :
      Tiles rules (rules.opening ++ body ++ rules.closing ++ rest)
        (⟨.opening, rules.opening⟩ :: (bodyRegion body ++ ⟨.closing, rules.closing⟩ :: more))

variable {rules : BlockRules}

/-- A body without a region is empty, and any other is its region. -/
theorem bodyRegion_cases (body : Text) :
    (body = [] ∧ bodyRegion body = []) ∨ (body ≠ [] ∧ bodyRegion body = [⟨.plain, body⟩]) := by
  by_cases h : body = []
  · exact .inl ⟨h, if_pos h⟩
  · exact .inr ⟨h, if_neg h⟩

theorem unbroken_cons {c : Char} {run rest : Text} (hopen : ¬ rules.opening <+: c :: (run ++ rest))
    (hclose : ¬ rules.closing ++ rules.closing <+: c :: (run ++ rest))
    (hrun : Unbroken rules run rest) : Unbroken rules (c :: run) rest := by
  intro u v huv hv
  cases u with
  | nil =>
    obtain rfl : c :: run = v := huv
    exact ⟨hopen, hclose⟩
  | cons x u =>
    rw [List.cons_append, List.cons.injEq] at huv
    exact hrun u v huv.2 hv

theorem unbroken_nil (rest : Text) : Unbroken rules [] rest := by
  intro u v huv hv
  exact absurd (List.append_eq_nil_iff.1 huv.symm).2 hv

/-- An ordinary character joins the run of ordinary text that it stands in front of. -/
theorem Tiles.pushPlain {c : Char} {rest : Text} {more : List Span} (h : Tiles rules rest more)
    (hopen : ¬ rules.opening <+: c :: rest)
    (hclose : ¬ rules.closing ++ rules.closing <+: c :: rest) :
    Tiles rules (c :: rest) (pushPlain [c] more) := by
  have hsingle : (∀ s ∈ more.head?, s.kind ≠ .plain) →
      Tiles rules ([c] ++ rest) (⟨.plain, [c]⟩ :: more) :=
    fun hnext => .plain (by simp) (unbroken_cons hopen hclose (unbroken_nil rest)) hnext h
  cases h with
  | plain hne hrun hnext hmore =>
    exact .plain (by simp) (unbroken_cons hopen hclose hrun) hnext hmore
  | _ => exact hsingle (by simp)

/-- The regions of lexemes make up the text that the lexemes are read from. -/
theorem tiles_spans {text : Text} {ls : List Lexeme} (h : Lexes rules text ls) :
    Tiles rules text (spans rules ls) := by
  induction h with
  | nil => exact .nil
  | @cons s rest l ls hstart _ ih =>
    cases hstart with
    | escapedOpen =>
      rw [← List.append_assoc]
      exact .escapedOpen ih
    | @block _ body _ hopen hclose =>
      rw [hclose.append, ← List.append_assoc, ← List.append_assoc]
      exact .block ih
    | escapedClose hopen => exact .escapedClose ih
    | char hopen hclose => exact ih.pushPlain hopen hclose

/-! ## What a row of regions looks like -/

/-- The text of several regions. -/
def textOf (more : List Span) : Text := more.flatMap Span.text

@[simp] theorem textOf_cons (s : Span) (more : List Span) :
    textOf (s :: more) = s.text ++ textOf more := rfl

@[simp] theorem textOf_append (first more : List Span) :
    textOf (first ++ more) = textOf first ++ textOf more :=
  List.flatMap_append

@[simp] theorem textOf_bodyRegion (body : Text) : textOf (bodyRegion body) = body := by
  obtain ⟨rfl, hbody⟩ | ⟨-, hbody⟩ := bodyRegion_cases body
  · rw [hbody]
    rfl
  · rw [hbody]
    exact List.append_nil body

theorem Tiles.textOf_eq {text : Text} {regions : List Span} (h : Tiles rules text regions) :
    textOf regions = text := by
  induction h with
  | nil => rfl
  | plain hne hrun hnext hmore ih => rw [textOf_cons, ih]
  | escapedOpen hmore ih => rw [textOf_cons, ih]
  | escapedClose hmore ih => rw [textOf_cons, ih]
  | block hmore ih => simp [ih]

/-- The text that a region of a kind has to have; ordinary text may be any. -/
def SpanKind.delimiter? (rules : BlockRules) : SpanKind → Option Text
  | .plain => none
  | .opening => some rules.opening
  | .closing => some rules.closing
  | .escapedOpen => some (rules.opening ++ rules.opening)
  | .escapedClose => some (rules.closing ++ rules.closing)

/-- A region that is not empty, and is a delimiter if its kind says so. -/
def Span.Sound (rules : BlockRules) (s : Span) : Prop :=
  s.text ≠ [] ∧ ∀ d ∈ s.kind.delimiter? rules, s.text = d

theorem Tiles.sound {text : Text} {regions : List Span} (h : Tiles rules text regions) :
    ∀ s ∈ regions, s.Sound rules := by
  have hopen := rules.opening_ne
  have hclose := rules.closing_ne
  induction h with
  | nil => simp
  | plain hne hrun hnext hmore ih =>
    rw [List.forall_mem_cons]
    exact ⟨⟨hne, by simp [SpanKind.delimiter?]⟩, ih⟩
  | escapedOpen hmore ih | escapedClose hmore ih =>
    rw [List.forall_mem_cons]
    exact ⟨by simp [Span.Sound, SpanKind.delimiter?, hopen, hclose], ih⟩
  | @block body rest more hmore ih =>
    have hbody : ∀ s ∈ bodyRegion body, s.Sound rules := by
      obtain ⟨-, hbody⟩ | ⟨hne, hbody⟩ := bodyRegion_cases body
      · simp [hbody]
      · simp [hbody, Span.Sound, SpanKind.delimiter?, hne]
    rw [List.forall_mem_cons, List.forall_mem_append, List.forall_mem_cons]
    refine ⟨?_, hbody, ?_, ih⟩
    all_goals simp [Span.Sound, SpanKind.delimiter?, hopen, hclose]

/-- The kinds of regions follow one another as they may: ordinary text, doubled delimiters, and
blocks of an open delimiter, perhaps a body, and a close delimiter. -/
inductive Arranged : List SpanKind → Prop
  | nil : Arranged []
  | plain {kinds : List SpanKind} (more : Arranged kinds) : Arranged (.plain :: kinds)
  | escapedOpen {kinds : List SpanKind} (more : Arranged kinds) : Arranged (.escapedOpen :: kinds)
  | escapedClose {kinds : List SpanKind} (more : Arranged kinds) :
      Arranged (.escapedClose :: kinds)
  | emptyBlock {kinds : List SpanKind} (more : Arranged kinds) :
      Arranged (.opening :: .closing :: kinds)
  | block {kinds : List SpanKind} (more : Arranged kinds) :
      Arranged (.opening :: .plain :: .closing :: kinds)

theorem Tiles.arranged {text : Text} {regions : List Span} (h : Tiles rules text regions) :
    Arranged (regions.map Span.kind) := by
  induction h with
  | nil => exact .nil
  | plain hne hrun hnext hmore ih => exact .plain ih
  | escapedOpen hmore ih => exact .escapedOpen ih
  | escapedClose hmore ih => exact .escapedClose ih
  | @block body rest more hmore ih =>
    obtain ⟨-, hbody⟩ | ⟨-, hbody⟩ := bodyRegion_cases body
    · rw [hbody]
      exact .emptyBlock ih
    · rw [hbody]
      exact .block ih

/-- Two kinds that are not both ordinary text. -/
def SpanKind.Apart (a b : SpanKind) : Prop := ¬ (a = .plain ∧ b = .plain)

theorem Tiles.apart {text : Text} {regions : List Span} (h : Tiles rules text regions) :
    (regions.map Span.kind).IsChain SpanKind.Apart := by
  induction h with
  | nil => exact .nil
  | @plain run rest more hne hrun hnext hmore ih =>
    rw [List.map_cons, List.isChain_cons]
    refine ⟨?_, ih⟩
    rw [List.head?_map]
    intro kind hkind
    obtain ⟨s, hs, rfl⟩ := Option.map_eq_some_iff.1 hkind
    exact fun hplain => hnext s hs hplain.2
  | escapedOpen hmore ih | escapedClose hmore ih =>
    rw [List.map_cons, List.isChain_cons]
    exact ⟨by simp [SpanKind.Apart], ih⟩
  | @block body rest more hmore ih =>
    obtain ⟨-, hbody⟩ | ⟨-, hbody⟩ := bodyRegion_cases body
    all_goals
      rw [hbody]
      simp [List.isChain_cons, SpanKind.Apart]
      exact ih

/-- What follows these regions is outside the blocks. -/
def Outside (before : List Span) : Prop := ∀ last ∈ before.getLast?, last.kind ≠ .opening

theorem outside_of_append (first : List Span) {before : List Span}
    (h : Outside (first ++ before)) : Outside before := by
  intro last hlast
  refine h last ?_
  rw [List.getLast?_append, hlast, Option.some_or]
  rfl

/-- The only ordinary text among the regions of a block is its body. -/
theorem not_outside_of_block {body : Text} {before part : List Span} {s : Span}
    (h : ⟨.opening, rules.opening⟩ :: bodyRegion body ++ [⟨.closing, rules.closing⟩] =
      before ++ s :: part)
    (hplain : s.kind = .plain) : ¬ Outside before := by
  have hclosing : ∀ before part : List Span,
      [⟨.closing, rules.closing⟩] ≠ before ++ s :: part := by
    intro before part h
    have hmem : s ∈ [(⟨.closing, rules.closing⟩ : Span)] := by simp [h]
    rw [List.mem_singleton.1 hmem] at hplain
    exact absurd hplain (by simp)
  cases before with
  | nil =>
    obtain ⟨rfl, -⟩ := List.cons.inj h
    exact absurd hplain (by simp)
  | cons b before =>
    obtain ⟨rfl, hrest⟩ := List.cons.inj h
    obtain ⟨-, hbody⟩ | ⟨-, hbody⟩ := bodyRegion_cases body
    · rw [hbody] at hrest
      exact absurd hrest (hclosing _ _)
    · rw [hbody] at hrest
      cases before with
      | nil => exact fun hout => hout _ rfl rfl
      | cons b before => exact absurd (List.cons.inj hrest).2 (hclosing _ _)

/-- No scan stops in ordinary text outside the blocks. -/
theorem Tiles.unbroken {text : Text} {regions : List Span} (h : Tiles rules text regions)
    {before after : List Span} {s : Span} (hsplit : regions = before ++ s :: after)
    (hplain : s.kind = .plain) (hout : Outside before) :
    Unbroken rules s.text (textOf after) := by
  induction h generalizing before with
  | nil => simp at hsplit
  | plain hne hrun hnext hmore ih =>
    cases before with
    | nil =>
      obtain ⟨rfl, rfl⟩ : _ = s ∧ _ = after := by simpa using hsplit
      rw [hmore.textOf_eq]
      exact hrun
    | cons b before =>
      rw [List.cons_append, List.cons.injEq] at hsplit
      exact ih hsplit.2 (outside_of_append [b] hout)
  | escapedOpen hmore ih | escapedClose hmore ih =>
    cases before with
    | nil =>
      obtain ⟨rfl, -⟩ : _ = s ∧ _ = after := by simpa using hsplit
      exact absurd hplain (by simp)
    | cons b before =>
      rw [List.cons_append, List.cons.injEq] at hsplit
      exact ih hsplit.2 (outside_of_append [b] hout)
  | @block body rest more hmore ih =>
    have hparts :
        (⟨.opening, rules.opening⟩ :: bodyRegion body ++ [⟨.closing, rules.closing⟩]) ++ more =
          before ++ s :: after := by
      simpa using hsplit
    -- the region comes after the block, starts where the block ends, or is a part of it
    obtain ⟨later, rfl, hlater⟩ | ⟨part, hpart, hafter⟩ := List.append_eq_append_iff.1 hparts
    · exact ih hlater (outside_of_append _ hout)
    · cases part with
      | nil =>
        have hnone : Outside [] := by simp [Outside]
        exact @ih [] hafter.symm hnone
      | cons x part =>
        obtain ⟨rfl, -⟩ := List.cons.inj hafter
        exact absurd hout (not_outside_of_block hpart hplain)

/-! ## Regions with their offsets -/

/-- What is left of the text of some regions from a place in one of them on. -/
theorem drop_textOf {first last : List Span} {s : Span} {k : Nat} (hk : k ≤ s.text.length) :
    (textOf (first ++ s :: last)).drop ((textOf first).length + k) =
      s.text.drop k ++ textOf last := by
  rw [textOf_append, textOf_cons, List.drop_length_add_append, List.drop_append_of_le_length hk]

/-- Regions with offsets that lie next to one another from `start` to `stop`, none of them empty. -/
inductive Contiguous : (start : Nat) → List (Span × Nat × Nat) → (stop : Nat) → Prop
  | nil (pos : Nat) : Contiguous pos [] pos
  | cons {s : Span} {start next stop : Nat} {more : List (Span × Nat × Nat)} (h : start < next)
      (hmore : Contiguous next more stop) : Contiguous start ((s, start, next) :: more) stop

theorem contiguous_locate {regions : List Span} (h : ∀ s ∈ regions, s.text ≠ []) (pos : Nat) :
    Contiguous pos (locate pos regions) (pos + (textOf regions).length) := by
  induction regions generalizing pos with
  | nil => exact .nil pos
  | cons s more ih =>
    rw [List.forall_mem_cons] at h
    have hlen : 0 < s.text.length := List.length_pos_iff.2 h.1
    rw [textOf_cons, List.length_append, ← Nat.add_assoc]
    exact .cons (by omega) (ih h.2 (pos + s.text.length))

/-- A region with offsets that is found among located ones: what stands in front of it tells where
it starts. -/
theorem locate_eq_append {regions : List Span} {pos : Nat} {before after : List (Span × Nat × Nat)}
    {s : Span} {start stop : Nat} (h : locate pos regions = before ++ (s, start, stop) :: after) :
    ∃ first last, regions = first ++ s :: last ∧ before.map (·.1) = first ∧
      start = pos + (textOf first).length ∧ stop = start + s.text.length := by
  induction regions generalizing pos before with
  | nil => simp [locate] at h
  | cons x more ih =>
    rw [locate] at h
    cases before with
    | nil =>
      obtain ⟨hx, -⟩ := List.cons.inj h
      obtain ⟨rfl, rfl, rfl⟩ : x = s ∧ pos = start ∧ pos + x.text.length = stop := by
        simpa using hx
      exact ⟨[], more, rfl, rfl, rfl, rfl⟩
    | cons b before =>
      obtain ⟨rfl, hmore⟩ := List.cons.inj h
      obtain ⟨first, last, rfl, hfirst, hstart, hstop⟩ := ih hmore
      refine ⟨x :: first, last, rfl, by rw [List.map_cons, hfirst], ?_, hstop⟩
      rw [hstart, textOf_cons, List.length_append, Nat.add_assoc]

/-- Regions with their offsets as a scan gives them. They lie next to one another from the start of
the text to its end. Each stands for the text between its offsets, which is the delimiter that its
kind asks for. Their kinds come in order, with no two runs of ordinary text next to each other. And
outside the blocks, which is where no open delimiter stands in front, no open delimiter and no
doubled close delimiter starts anywhere in a run of ordinary text. -/
structure Tiling (rules : BlockRules) (text : Text) (regions : List (Span × Nat × Nat)) : Prop where
  contiguous : Contiguous 0 regions text.length
  slices : ∀ s start stop, (s, start, stop) ∈ regions →
    s.text = (text.drop start).take (stop - start)
  delimiters : ∀ e ∈ regions, ∀ d ∈ e.1.kind.delimiter? rules, e.1.text = d
  arranged : Arranged (regions.map (·.1.kind))
  apart : (regions.map (·.1.kind)).IsChain SpanKind.Apart
  maximal : ∀ before s start stop after, regions = before ++ (s, start, stop) :: after →
    s.kind = .plain → (∀ last ∈ before.getLast?, last.1.kind ≠ .opening) →
    ∀ pos, start ≤ pos → pos < stop →
      ¬ rules.opening <+: text.drop pos ∧ ¬ rules.closing ++ rules.closing <+: text.drop pos

theorem map_locate (pos : Nat) (regions : List Span) :
    (locate pos regions).map (·.1) = regions := by
  induction regions generalizing pos with
  | nil => rfl
  | cons s more ih => rw [locate, List.map_cons, ih]

theorem Tiles.tiling {text : Text} {regions : List Span} (h : Tiles rules text regions) :
    Tiling rules text (locate 0 regions) := by
  have hkinds : (locate 0 regions).map (·.1.kind) = regions.map Span.kind := by
    rw [← map_locate 0 regions, List.map_map, map_locate]
    rfl
  refine ⟨?_, ?_, ?_, ?_, ?_, ?_⟩
  · have hcont := contiguous_locate (fun s hs => (h.sound s hs).1) 0
    rwa [h.textOf_eq, Nat.zero_add] at hcont
  · intro s start stop hmem
    obtain ⟨before, after, hsplit⟩ := List.append_of_mem hmem
    obtain ⟨first, last, rfl, -, hstart, hstop⟩ := locate_eq_append hsplit
    have hdrop : text.drop start = s.text ++ textOf last := by
      rw [← h.textOf_eq, hstart, Nat.zero_add]
      exact drop_textOf (Nat.zero_le _)
    rw [hdrop, hstop, Nat.add_sub_cancel_left, List.take_left]
  · intro e he
    have hmem : e.1 ∈ regions := by
      rw [← map_locate 0 regions]
      exact List.mem_map_of_mem he
    exact (h.sound _ hmem).2
  · rw [hkinds]
    exact h.arranged
  · rw [hkinds]
    exact h.apart
  · intro before s start stop after hsplit hplain hout pos hstart hstop
    obtain ⟨first, last, rfl, hfirst, rfl, rfl⟩ := locate_eq_append hsplit
    have houtside : Outside first := by
      intro x hx
      rw [← hfirst, List.getLast?_map] at hx
      obtain ⟨e, he, rfl⟩ := Option.map_eq_some_iff.1 hx
      exact hout e he
    have hrun := h.unbroken rfl hplain houtside
    -- the position lies in the run, so it cuts the run in two
    obtain ⟨k, rfl⟩ := Nat.exists_eq_add_of_le hstart
    have hk : k < s.text.length := by omega
    rw [← h.textOf_eq, Nat.zero_add, drop_textOf hk.le]
    exact hrun (s.text.take k) (s.text.drop k) (List.take_append_drop k s.text).symm
      (by simpa using hk)

/-- Scanning a template that can be scanned tiles it with regions. -/
theorem tiling_locate {text : Text} {regions : List Span} (h : scan rules text = .ok regions) :
    Tiling rules text (locate 0 regions) := by
  obtain ⟨ls, hls, rfl⟩ := map_eq_ok_iff.1 h
  exact (tiles_spans (lexemesFrom_eq_ok_iff.1 hls)).tiling

/-- Delimiters of two characters that overlap: a doubled close delimiter, a single one that is
ordinary text, and a nested block. -/
theorem tiling_locate_overlapping :
    let rules : BlockRules := ⟨['<', '|'], ['|', '|'], false, ['#'], by simp, by simp⟩
    let regions : List Span :=
      [⟨.plain, "a".toList⟩, ⟨.escapedClose, "||||".toList⟩, ⟨.plain, "|| ".toList⟩,
        ⟨.opening, "<|".toList⟩, ⟨.plain, "x<|||y".toList⟩, ⟨.closing, "||".toList⟩]
    scan rules "a|||||| <|x<|||y||".toList = .ok regions ∧
      Tiling rules "a|||||| <|x<|||y||".toList (locate 0 regions) := by
  intro rules regions
  have h : scan rules "a|||||| <|x<|||y||".toList = .ok regions := by decide +kernel
  exact ⟨h, tiling_locate h⟩

end Stencil.Template
