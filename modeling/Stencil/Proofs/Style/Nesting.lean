import Mathlib.Data.List.TakeWhile
import Stencil.Proofs.Basic
import Stencil.Proofs.Template.Source
import Stencil.Proofs.Template.Trim
import Stencil.Transform.Apply

/-!
# Style blocks inside one another

The body of a style block is a template of its own, and the blocks in it may be style blocks again
(`Layout.Nests`). Each of them is shorter than the style block, because its body is less than the
block (`splitStyle?_eq_some`), trimming leaves characters out (`Template.trim_sublist`), and a block
is in its template together with its delimiters (`Template.sublist_of_mem_parse`). So the value of a
block is settled by one level of rendering in terms of the blocks inside (`styledBlock`). Main
statement: `Transformer.apply_color_nested`.
-/

namespace Stencil

open Template (Segment)

/-- The block `inner` stands in the body of the style block `text`. -/
def Layout.Nests (l : Layout) (text inner : Text) : Prop :=
  ∃ name body segments start stop, splitStyle? text = some (name, body) ∧
    l.prepare (.whole body) = .ok segments ∧ .expression inner start stop ∈ segments

/-- The value of a block, where `inside` gives the values of the blocks in the body of a style
block. -/
def styledBlock (l : Layout) (system : Option Text) (c : Context) (inside : Text → Rendering Value)
    (text : Text) : Rendering Value := do
  if ← isExpression text then evaluate text (.context c)
  else
    (splitStyle? text).elim (evaluate text (.context c)) fun parts => do
      let brush ← Run.ofExcept (Brush.named (← get) c parts.1)
      let segments ← Run.ofExcept ((l.prepare (.whole parts.2)).mapError .parse)
      let rows ← renderSegments inside l segments
      let shown ← rows.mapM (brush.apply system)
      Run.newList shown

/-! ## Lengths -/

/-- White space in front of a body that starts with another character. -/
theorem exists_gap_of_dropWhile_eq_cons {e d : Char} {rest more : Text}
    (he : Text.isBlank e = true) (h : (e :: rest).dropWhile Text.isBlank = d :: more) :
    ∃ gap, e :: rest = gap ++ d :: more ∧ gap ≠ [] ∧ Text.allBlank gap = true := by
  refine ⟨(e :: rest).takeWhile Text.isBlank, ?_, ?_, List.all_takeWhile⟩
  · rw [← h, List.takeWhile_append_dropWhile]
  · simp [List.takeWhile_cons_of_pos he]

/-- White space up to the end, the last of which is the body. -/
theorem exists_gap_of_dropWhile_eq_nil {a e : Char} {rest : Text}
    (h : (a :: e :: rest).dropWhile Text.isBlank = []) :
    ∃ gap, a :: e :: rest = gap ++ [(e :: rest).getLast (List.cons_ne_nil e rest)] ∧ gap ≠ [] ∧
      Text.allBlank gap = true := by
  refine ⟨a :: (e :: rest).dropLast, ?_, by simp, ?_⟩
  · rw [List.cons_append, List.dropLast_append_getLast]
  · refine List.all_eq_true.2 fun x hx => List.dropWhile_eq_nil_iff.1 h x ?_
    exact ((List.dropLast_sublist (e :: rest)).cons_cons a).subset hx

/-- A style block is its name and its body with white space between them, and maybe in front. -/
theorem splitStyle?_eq_some {text name body : Text} (h : splitStyle? text = some (name, body)) :
    ∃ lead gap, text = lead ++ name ++ gap ++ body ∧ gap ≠ [] ∧
      Text.allBlank lead = true ∧ Text.allBlank gap = true := by
  unfold splitStyle? at h
  split at h
  · exact absurd h (by simp)
  · rename_i c s hstart
    have hlead : text = text.takeWhile Text.isBlank ++ c :: s :=
      hstart ▸ List.takeWhile_append_dropWhile.symm
    have hword : s = s.takeWhile isStyleChar ++ s.dropWhile isStyleChar :=
      List.takeWhile_append_dropWhile.symm
    -- it is left to find the gap in what stands behind the name
    suffices hgap : ∃ gap, name = c :: s.takeWhile isStyleChar ∧
        s.dropWhile isStyleChar = gap ++ body ∧ gap ≠ [] ∧ Text.allBlank gap = true by
      obtain ⟨gap, rfl, hbody, hne, hblank⟩ := hgap
      refine ⟨text.takeWhile Text.isBlank, gap, ?_, hne, List.all_takeWhile, hblank⟩
      rw [List.append_assoc _ gap, ← hbody, List.append_assoc, List.cons_append, ← hword]
      exact hlead
    split at h
    · dsimp only at h
      generalize s.dropWhile isStyleChar = after at h ⊢
      split at h
      · rename_i d more e rest hbody
        split at h
        · rename_i he
          obtain ⟨rfl, rfl⟩ := Prod.mk.inj (Option.some.inj h)
          obtain ⟨gap, hgap⟩ := exists_gap_of_dropWhile_eq_cons he hbody
          exact ⟨gap, rfl, hgap⟩
        · exact absurd h (by simp)
      · rename_i hnone
        obtain ⟨rfl, rfl⟩ := Prod.mk.inj (Option.some.inj h)
        obtain ⟨gap, hgap⟩ := exists_gap_of_dropWhile_eq_nil hnone
        exact ⟨gap, rfl, hgap⟩
      · exact absurd h (by simp)
    · exact absurd h (by simp)

theorem length_body_lt {text name body : Text} (h : splitStyle? text = some (name, body)) :
    body.length < text.length := by
  obtain ⟨lead, gap, rfl, hgap, -⟩ := splitStyle?_eq_some h
  have hpos : 0 < gap.length := List.length_pos_iff.2 hgap
  simp only [List.length_append]
  omega

/-- A block in a template is shorter than the template, trimmed or not. -/
theorem Layout.length_lt_of_prepare {l : Layout} {body inner : Text} {segments : List Segment}
    {start stop : Nat} (h : l.prepare (.whole body) = .ok segments)
    (hmem : .expression inner start stop ∈ segments) : inner.length < body.length := by
  have hpart := (Template.sublist_of_mem_parse h hmem).length_le
  have hopen : 0 < l.rules.opening.length := List.length_pos_iff.2 l.rules.opening_ne
  have htext : (if l.trim then Template.trim body else body).length ≤ body.length := by
    split
    · exact (Template.trim_sublist body).length_le
    · exact Nat.le_refl _
  simp only [List.length_append, TemplateSource.join] at hpart
  omega

theorem Layout.Nests.length_lt {l : Layout} {text inner : Text} (h : l.Nests text inner) :
    inner.length < text.length := by
  obtain ⟨name, body, segments, start, stop, hsplit, hprepare, hmem⟩ := h
  exact Nat.lt_trans (length_lt_of_prepare hprepare hmem) (length_body_lt hsplit)

/-- No style blocks stand inside one another without end. -/
theorem Layout.wellFounded_nests (l : Layout) :
    WellFounded fun inner text => l.Nests text inner :=
  Subrelation.wf Nests.length_lt (measure List.length).wf

/-! ## One level of rendering -/

theorem renderSegments_congr {f g : Text → Rendering Value} {l : Layout} {segments : List Segment}
    (h : ∀ inner start stop, .expression inner start stop ∈ segments → f inner = g inner) :
    renderSegments f l segments = renderSegments g l segments := by
  have hsegment : ∀ segment ∈ segments,
      segmentTexts f l.na segment = segmentTexts g l.na segment := by
    intro segment hmem
    cases segment with
    | literal text raw => rfl
    | expression inner start stop => rw [segmentTexts, segmentTexts, h inner start stop hmem]
  rw [renderSegments, renderSegments, Run.mapM_congr hsegment]

section

variable {l : Layout} {system : Option Text} {c : Context}

/-- One level of rendering asks for the values of nested blocks only. -/
theorem styledBlock_congr {f g : Text → Rendering Value} {text : Text}
    (h : ∀ inner, l.Nests text inner → f inner = g inner) :
    styledBlock l system c f text = styledBlock l system c g text := by
  cases hsplit : splitStyle? text with
  | none => simp only [styledBlock, hsplit, Option.elim_none]
  | some parts =>
    have hrows : ∀ segments, (l.prepare (.whole parts.2)).mapError Problem.parse = .ok segments →
        renderSegments f l segments = renderSegments g l segments := by
      intro segments hprepare
      refine renderSegments_congr fun inner start stop hmem => h inner ?_
      exact ⟨_, _, segments, start, stop, hsplit, mapError_eq_ok_iff.1 hprepare, hmem⟩
    rw [styledBlock, styledBlock, hsplit]
    refine bind_congr fun isExpr => ?_
    split
    · rfl
    · refine bind_congr fun s => bind_congr fun brush => ?_
      refine Run.ofExcept_bind_congr fun segments hprepare => ?_
      rw [hrows segments hprepare]

/-- The value of a block is what one level of rendering makes of the values of the blocks inside. -/
theorem evaluateStyled_eq (text : Text) :
    evaluateStyled l system c text = styledBlock l system c (evaluateStyled l system c) text := by
  have hguarded : evaluateStyled l system c text = styledBlock l system c (fun inner =>
      if inner.length < text.length then evaluateStyled l system c inner
      else throw (.fault .depth)) text := by
    rw [evaluateStyled, styledBlock]
    cases splitStyle? text <;> rfl
  rw [hguarded]
  -- no block inside is refused, because each is shorter
  exact styledBlock_congr fun inner hnests => if_pos hnests.length_lt

/-- No other values of blocks agree with one level of rendering. -/
theorem eq_evaluateStyled {values : Text → Rendering Value}
    (h : ∀ text, values text = styledBlock l system c values text) (text : Text) :
    values text = evaluateStyled l system c text := by
  induction text using l.wellFounded_nests.induction with
  | _ text ih => rw [h, evaluateStyled_eq, styledBlock_congr ih]

end

/-! ## Nesting comes to an end -/

namespace Transformer

/-- A style block gets shorter at each level: trimming its body does not lengthen it, and every
block in the body is shorter than the style block. So style blocks stand inside one another to a
finite depth only, and the values that a transformer for colors makes of blocks are the only ones
that one level of rendering makes of the values of the blocks inside. -/
theorem apply_color_nested (l : Layout) :
    (∀ text name body, splitStyle? text = some (name, body) →
      (Template.trim body).length ≤ body.length ∧
        ∀ segments, l.prepare (.whole body) = .ok segments →
          ∀ inner start stop, .expression inner start stop ∈ segments →
            inner.length < text.length) ∧
    (WellFounded fun inner text => l.Nests text inner) ∧
    ∀ system c (values : Text → Rendering Value),
      (∀ text, values text = styledBlock l system c values text) ↔
        values = fun text => (color (some l) system).apply text c := by
  refine ⟨fun text name body hsplit => ⟨(Template.trim_sublist body).length_le, ?_⟩,
    l.wellFounded_nests, fun system c values => ⟨fun h => funext (eq_evaluateStyled h), ?_⟩⟩
  · intro segments hprepare inner start stop hmem
    exact Layout.Nests.length_lt ⟨name, body, segments, start, stop, hsplit, hprepare, hmem⟩
  · rintro rfl
    exact evaluateStyled_eq

/-- A style block over several lines with another one inside. -/
theorem apply_color_nested_twice :
    let text : Text := "bold \n  a \x7bred \x7bb\x7d\x7d\n".toList
    let body : Text := "a \x7bred \x7bb\x7d\x7d\n".toList
    let segments : List Segment :=
      [.literal "a ".toList "a ".toList, .expression "red \x7bb\x7d".toList 2 11]
    splitStyle? text = some ("bold".toList, body) ∧
      Layout.standard.prepare (.whole body) = .ok segments ∧
      .expression "red \x7bb\x7d".toList 2 11 ∈ segments ∧
      "red \x7bb\x7d".toList.length < text.length ∧
      (color (some .standard) none).apply text .empty = styledBlock .standard none .empty
        (fun inner => (color (some .standard) none).apply inner .empty) text := by
  intro text body segments
  have hsplit : splitStyle? text = some ("bold".toList, body) := by decide +kernel
  have hprepare : Layout.standard.prepare (.whole body) = .ok segments := by
    apply eq_ok_of_match
    decide +kernel
  have hmem : .expression "red \x7bb\x7d".toList 2 11 ∈ segments := by simp [segments]
  have hnested := ((apply_color_nested .standard).1 text _ body hsplit).2 segments hprepare
  have hvalues := ((apply_color_nested .standard).2.2 none .empty _).2 rfl text
  exact ⟨hsplit, hprepare, hmem, hnested _ 2 11 hmem, hvalues⟩

end Transformer

end Stencil
