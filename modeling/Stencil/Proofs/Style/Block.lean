import Stencil.Proofs.Render.Blocks
import Stencil.Proofs.Render.Rows
import Stencil.Proofs.Style.Shown
import Stencil.Proofs.Template.Doubling
import Stencil.Proofs.Template.Trim
import Stencil.Transform.Apply

/-!
# Style blocks of plain text

The body of a style block is a template, so it is trimmed before it is painted. A body without
delimiters is one literal (`Template.parse_of_no_delimiter`), and what is painted of it shows the
trimmed body (`evaluateStyled_of_plain`). Main statement: `Transformer.apply_color_bold`, the lines
of the body are shown in order, the first as it is written and the others without the indentation
that they share.
-/

namespace Stencil

open Text
open Template (Segment trim indentWidth dedent)

/-! ## Plain templates -/

/-- A text without control characters but newlines, and without certain marks. -/
def IsPlain (marks : List Char) (t : Text) : Prop :=
  ∀ c ∈ t, c ∉ marks ∧ (IsControl c → c = '\n')

instance (marks : List Char) (t : Text) : Decidable (IsPlain marks t) := List.decidableBAll _ t

/-- All that a trimmed plain text has in it is shown. -/
theorem IsPlain.isShown_trim {marks : List Char} {t : Text} (h : IsPlain marks t) :
    ∀ c ∈ trim t, IsShown c := by
  intro c hc
  by_cases hcontrol : IsControl c
  · exact (h c (Template.mem_of_mem_trim hc)).2 hcontrol ▸ isShown_newline
  · exact isShown_of_not_isControl hcontrol

namespace Template

/-- A text without delimiters has nothing to be doubled in it. -/
theorem doubled_eq_self {o c : Char} {s : Text} (ho : o ∉ s) (hc : c ∉ s) : doubled o c s = s := by
  induction s with
  | nil => rfl
  | cons x s ih =>
    simp only [List.mem_cons, not_or] at ho hc
    rw [doubled_cons, ih ho.2 hc.2]
    simp [doubled, Ne.symm ho.1, Ne.symm hc.1]

/-- A text without delimiters is one literal. -/
theorem parse_of_no_delimiter {rules : BlockRules} {o c : Char} (ho : rules.opening = [o])
    (hc : rules.closing = [c]) {s : Text} (hs : s ≠ []) (hos : o ∉ s) (hcs : c ∉ s) :
    parse rules s = .ok [.literal s s] := by
  have hdoubled := doubled_eq_self hos hcs
  have hlexes := lexes_doubled ho hc s Lexes.nil
  rw [hdoubled, List.append_nil] at hlexes
  rw [parse_of_lexes hlexes, segmentsFrom_doubled ho hc hs, hdoubled]
  rfl

end Template

/-! ## Painted bodies -/

/-- A word and a space in front of a body that does not start with white space are its style. -/
theorem splitStyle?_append {c : Char} {word body : Text} (hc : isStyleStart c = true)
    (hblank : isBlank c = false) (hword : ∀ d ∈ word, isStyleChar d = true)
    (hbody : ∃ d ∈ body.head?, isBlank d = false) :
    splitStyle? (c :: (word ++ ' ' :: body)) = some (c :: word, body) := by
  have hspace : isStyleChar ' ' = false := by decide
  have hspace' : isBlank ' ' = true := by decide
  have htake : (word ++ ' ' :: body).takeWhile isStyleChar = word := by
    rw [List.takeWhile_append_of_pos hword, List.takeWhile_cons_of_neg (by simp [hspace]),
      List.append_nil]
  have hdrop : (word ++ ' ' :: body).dropWhile isStyleChar = ' ' :: body := by
    rw [List.dropWhile_append_of_pos hword, List.dropWhile_cons_of_neg (by simp [hspace])]
  obtain ⟨d, hd, hfirst⟩ := hbody
  obtain ⟨rest, rfl⟩ : ∃ rest, body = d :: rest := List.head?_eq_some_iff.1 hd
  have hafter : (' ' :: d :: rest).dropWhile isBlank = d :: rest := by
    rw [List.dropWhile_cons_of_pos hspace', List.dropWhile_cons_of_neg (by simp [hfirst])]
  rw [splitStyle?, List.dropWhile_cons_of_neg (by simp [hblank])]
  simp only [hc, htake, hdrop, hafter, hspace', if_true]

section

variable {text name body : Text} {system : Option Text} {colors : ColorSystem} {style : Style}
  {c : Context} {s : Store}

/-- A literal is the only row of its template. -/
theorem renderSegments_literal (apply : Text → Rendering Value) (l : Layout) (t raw : Text)
    (s : Store) : renderSegments apply l [.literal t raw] s = (.ok [t], s) := by
  have hpieces : ([Segment.literal t raw].mapM (segmentTexts apply l.na)) s = (.ok [[t]], s) := rfl
  rw [renderSegments, Run.bind_of_ok hpieces]
  exact assemble_single l.broadcast t s

/-- A style block whose trimmed body is a text without delimiters is painted as one row. -/
theorem evaluateStyled_of_plain (hexpr : Expr.isExpression s.machine text = .ok false)
    (hsplit : splitStyle? text = some (name, body))
    (hbrush : Brush.named s c name = .ok (.style style))
    (hsystem : ColorSystem.ofName? system = some colors) (hempty : trim body ≠ [])
    (hopen : '\x7b' ∉ trim body) (hclose : '\x7d' ∉ trim body) :
    evaluateStyled .standard system c text s =
      (.ok (.list s.cells.size), s.push (.list [.text (paint colors style (trim body))])) := by
  have hget (f : Store → Rendering Value) : (get >>= f) s = f s s := rfl
  have hexpr' : isExpression text s = (.ok false, s) := isExpression_of_eq hexpr
  have hprepare : Layout.standard.prepare (.whole body) =
      .ok [.literal (trim body) (trim body)] :=
    Template.parse_of_no_delimiter rfl rfl hempty hopen hclose
  rw [evaluateStyled, Run.bind_of_ok hexpr']
  simp only [hsplit]
  rw [if_neg (by simp), hget, hbrush, Run.ofExcept_ok_bind, hprepare]
  rw [Except.mapError, Run.ofExcept_ok_bind, Run.bind_of_ok (renderSegments_literal ..)]
  have hbrush' : (Brush.style style).apply system = fun row =>
      pure (.text (paint colors style row)) := by
    funext row
    simp only [Brush.apply, hsystem]
  rw [hbrush']
  rfl

end

/-- The style of the word for thick letters. -/
theorem ofDefinition_bold : Brush.ofDefinition "bold".toList (styleDefinition "bold".toList) =
    .ok (.style (Style.null.overlay (.setting .bold true))) := by
  rfl

/-! ## Lines of bodies -/

/-- A text that does not start with white space does not have a blank first line. -/
theorem allBlank_first {t first : Text} {rest : List Text}
    (hstart : ∃ d ∈ t.head?, isBlank d = false) (hlines : lines t = first :: rest) :
    allBlank first = false := by
  obtain ⟨d, hd, hblank⟩ := hstart
  obtain ⟨more, rfl⟩ : ∃ more, t = d :: more := List.head?_eq_some_iff.1 hd
  have hne : '\n' ∉ [d] := by
    rintro h
    obtain rfl := List.mem_singleton.1 h
    exact absurd hblank (by decide)
  have hhead : lines (d :: more) = (lines more).modifyHead ([d] ++ ·) := Text.lines_append hne more
  cases hmore : lines more with
  | nil => exact absurd hmore (splitAtChar_ne_nil '\n' more)
  | cons line others =>
    rw [hlines, hmore] at hhead
    obtain ⟨rfl, -⟩ := List.cons.inj hhead
    simp [allBlank, hblank]

/-- A width that lines have in common is the least indentation among those that are not blank. -/
def IsCommonWidth (width : Nat) (ls : List Text) : Prop :=
  (∃ l ∈ ls, allBlank l = false ∧ indentWidth l = width) ∧
    ∀ l ∈ ls, allBlank l = false → width ≤ indentWidth l

/-- Lines without as much of their indentation as `width`. -/
def outdent (width : Nat) (ls : List Text) : List Text :=
  ls.map fun l => l.drop (min width (indentWidth l))

/-- Lines of which the last one is not blank have a width in common, which they lose. -/
theorem exists_dedent_eq_outdent {ls : List Text} (hlast : ∀ l ∈ ls.getLast?, allBlank l = false) :
    ∃ width, (ls ≠ [] → IsCommonWidth width ls) ∧ dedent ls = outdent width ls := by
  cases hcommon : Template.commonIndent ls with
  | some width =>
    exact ⟨width, fun _ => Template.commonIndent_eq_some_iff.1 hcommon,
      Template.dedent_of_some hcommon⟩
  | none =>
    have hblank := Template.commonIndent_eq_none_iff.1 hcommon
    obtain rfl : ls = [] := by
      by_contra hne
      have hmem := List.getLast_mem hne
      have hnot := hlast _ (List.getLast?_eq_some_getLast hne)
      rw [hblank _ hmem] at hnot
      exact absurd hnot (by simp)
    exact ⟨0, fun h => absurd rfl h, rfl⟩

/-- Lines with a width in common stay as they are if it is zero, and only then. -/
theorem outdent_eq_self_iff {width : Nat} {ls : List Text}
    (h : ls ≠ [] → IsCommonWidth width ls) : outdent width ls = ls ↔ ls = [] ∨ width = 0 := by
  constructor
  · intro hsame
    by_cases hne : ls = []
    · exact .inl hne
    · obtain ⟨⟨l, hl, -, rfl⟩, -⟩ := h hne
      have hdrop := congrArg List.length (map_eq_self_iff.1 hsame l hl)
      have hlength : indentWidth l ≤ l.length := (List.takeWhile_sublist _).length_le
      rw [Nat.min_self, List.length_drop] at hdrop
      exact .inr (by omega)
  · rintro (rfl | rfl)
    · rfl
    · simp [outdent]

/-! ## Blocks in bold -/

namespace Transformer

/-- A block in bold whose body is plain text becomes one row, which shows the trimmed body. -/
theorem exists_apply_color_bold {body : Text} {c : Context} {s : Store}
    (hstart : ∃ d ∈ body.head?, isBlank d = false)
    (hplain : IsPlain ['\x7b', '\x7d', '\\'] body)
    (hempty : trim body ≠ [])
    (hexpr : Expr.isExpression s.machine ("bold ".toList ++ body) = .ok false)
    (hname : c.lookup s "bold".toList = none) :
    ∃ row, plainText row = trim body ∧
      (color none (some "truecolor".toList)).apply ("bold ".toList ++ body) c s =
        (.ok (.list s.cells.size), s.push (.list [.text row])) := by
  have hword : ∀ d ∈ "old".toList, isStyleChar d = true := List.all_eq_true.1 (by decide)
  have hsplit : splitStyle? ("bold ".toList ++ body) = some ("bold".toList, body) :=
    splitStyle?_append (by decide) (by decide) hword hstart
  have hbrush : Brush.named s c "bold".toList =
      .ok (.style (Style.null.overlay (.setting .bold true))) := by
    rw [Brush.named, hname]
    exact ofDefinition_bold
  have hmark {d : Char} (hd : d ∈ ['\x7b', '\x7d', '\\']) : d ∉ trim body := fun h =>
    (hplain d (Template.mem_of_mem_trim h)).1 hd
  have hsystem : ColorSystem.ofName? (some "truecolor".toList) = some .full := rfl
  have happly := evaluateStyled_of_plain hexpr hsplit hbrush hsystem hempty (hmark (by simp))
    (hmark (by simp))
  exact ⟨_, ((Coded.of_isShown hplain.isShown_trim).paint .full _).plainText_eq, happly⟩

/-- A style block in bold, whose body starts with a character that is not blank and ends in a line
that is not blank, and has no delimiters, backslashes or control characters but newlines in it. It
is one row, which shows the first line of the body as it is written, and the others without the
indentation that they have in common. So the body is shown as it is written if it is a single line,
or if a line after the first is not indented and not blank, and otherwise not. -/
theorem apply_color_bold {body : Text} {c : Context} {s : Store}
    (hstart : ∃ d ∈ body.head?, isBlank d = false)
    (hplain : IsPlain ['\x7b', '\x7d', '\\'] body)
    (hlast : ∀ l ∈ (lines body).getLast?, allBlank l = false)
    (hexpr : Expr.isExpression s.machine ("bold ".toList ++ body) = .ok false)
    (hname : c.lookup s "bold".toList = none) :
    ∃ row first rest width,
      (color none (some "truecolor".toList)).apply ("bold ".toList ++ body) c s =
        (.ok (.list s.cells.size), s.push (.list [.text row])) ∧
      lines body = first :: rest ∧ lines (plainText row) = first :: outdent width rest ∧
      (rest ≠ [] → IsCommonWidth width rest) ∧
      (plainText row = body ↔ rest = [] ∨ width = 0) := by
  cases hlines : lines body with
  | nil => exact absurd hlines (splitAtChar_ne_nil '\n' body)
  | cons first rest =>
  have hfirst := allBlank_first hstart hlines
  have hrest : ∀ l ∈ rest.getLast?, allBlank l = false := fun l hl =>
    hlast l (hlines ▸ List.mem_getLast?_cons hl)
  have hslash : '\\' ∉ body := fun h => (hplain _ h).1 (by simp)
  obtain ⟨width, hwidth, hdedent⟩ := exists_dedent_eq_outdent hrest
  have htrim : lines (trim body) = first :: outdent width rest :=
    hdedent ▸ Template.lines_trim_of_not_blank hlines hslash hfirst hrest
  have hempty : trim body ≠ [] := by
    intro hnil
    rw [hnil] at htrim
    obtain ⟨rfl, -⟩ := List.cons.inj htrim
    exact absurd hfirst (by decide)
  obtain ⟨row, hrow, happly⟩ := exists_apply_color_bold hstart hplain hempty hexpr hname
  refine ⟨row, first, rest, width, happly, rfl, hrow ▸ htrim, hwidth, ?_⟩
  rw [← outdent_eq_self_iff hwidth, hrow]
  -- the texts are equal if and only if their lines are
  constructor
  · intro hsame
    rw [hsame, hlines] at htrim
    exact (List.cons.inj htrim).2.symm
  · intro hsame
    rw [← joinWith_lines (trim body), htrim, hsame, ← hlines, joinWith_lines]

/-- Lines after the first that are indented by two and by four spaces lose two, and a blank one
between them loses the one that it has. -/
theorem apply_color_bold_indented :
    let body : Text := "a b\n  c\n \n    d ".toList
    (∃ d ∈ body.head?, isBlank d = false) ∧
      IsPlain ['\x7b', '\x7d', '\\'] body ∧ (∀ l ∈ (lines body).getLast?, allBlank l = false) ∧
      Expr.isExpression Store.empty.machine ("bold ".toList ++ body) = .ok false ∧
      Context.empty.lookup .empty "bold".toList = none ∧
      ∃ row, (color none (some "truecolor".toList)).apply ("bold ".toList ++ body) .empty .empty =
          (.ok (.list 0), Store.empty.push (.list [.text row])) ∧
        plainText row = "a b\nc\n\n  d ".toList := by
  intro body
  have hstart : ∃ d ∈ body.head?, isBlank d = false := ⟨'a', rfl, by decide⟩
  have hplain : IsPlain ['\x7b', '\x7d', '\\'] body := by decide
  have hbody : lines body = "a b".toList :: ["  c".toList, [' '], "    d ".toList] := by decide
  have hlast : ∀ l ∈ (lines body).getLast?, allBlank l = false := by
    rw [hbody]
    rintro l ⟨⟩
    rfl
  have hexpr : Expr.isExpression Store.empty.machine ("bold ".toList ++ body) = .ok false := by
    apply eq_ok_of_match
    decide +kernel
  obtain ⟨row, first, rest, width, happly, hlines, hshown, hwidth, -⟩ :=
    apply_color_bold (c := .empty) (s := .empty) hstart hplain hlast hexpr rfl
  obtain ⟨rfl, rfl⟩ := List.cons.inj (hbody.symm.trans hlines)
  obtain ⟨⟨l, hl, hblank, rfl⟩, hleast⟩ := hwidth (by simp)
  have htwo : indentWidth l = 2 := by
    have hle : indentWidth l ≤ 2 := hleast "  c".toList (by simp) (by decide)
    simp only [List.mem_cons, List.not_mem_nil, or_false] at hl
    obtain rfl | rfl | rfl := hl
    · rfl
    · exact absurd hblank (by decide)
    · exact absurd hle (by decide)
  rw [htwo] at hshown
  refine ⟨hstart, hplain, hlast, hexpr, rfl, row, happly, ?_⟩
  rw [← joinWith_lines (plainText row), hshown]
  decide

/-- A body whose second line is indented is shown without its indentation. -/
theorem apply_color_bold_two_lines :
    let body : Text := "a\n  b".toList
    (∃ d ∈ body.head?, isBlank d = false) ∧
      IsPlain ['\x7b', '\x7d', '\'', '"', '\x60', '\\', '#', '\u2028', '\u2029'] body ∧
      (∀ l ∈ (lines body).getLast?, allBlank l = false) ∧
      Expr.isExpression Store.empty.machine ("bold ".toList ++ body) = .ok false ∧
      Context.empty.lookup .empty "bold".toList = none ∧
      ∃ row, (color none (some "truecolor".toList)).apply ("bold ".toList ++ body) .empty .empty =
          (.ok (.list 0), Store.empty.push (.list [.text row])) ∧
        plainText row = "a\nb".toList ∧ plainText row ≠ body := by
  intro body
  have hstart : ∃ d ∈ body.head?, isBlank d = false := ⟨'a', rfl, by decide⟩
  have hplain : IsPlain ['\x7b', '\x7d', '\'', '"', '\x60', '\\', '#', '\u2028', '\u2029']
      body := by
    decide
  have hexpr : Expr.isExpression Store.empty.machine ("bold ".toList ++ body) = .ok false := by
    apply eq_ok_of_match
    decide +kernel
  have htrim : trim body = "a\nb".toList := by decide +kernel
  have hempty : trim body ≠ [] := by
    rw [htrim]
    decide
  obtain ⟨row, hrow, happly⟩ := exists_apply_color_bold (c := .empty) (s := .empty) hstart
    (by decide) hempty hexpr rfl
  have hshown : plainText row = "a\nb".toList := hrow.trans htrim
  refine ⟨hstart, hplain, ?_, hexpr, rfl, row, happly, hshown, ?_⟩
  · rintro l ⟨⟩
    rfl
  · rw [hshown]
    decide

end Transformer

end Stencil
