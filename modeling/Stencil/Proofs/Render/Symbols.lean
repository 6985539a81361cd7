import Stencil.Proofs.Render.Rows
import Stencil.Proofs.Render.Variables
import Stencil.Proofs.Template.Legible
import Stencil.Proofs.Template.Trim
import Stencil.Proofs.Text.Blank

/-!
# Symbols in templates

A key of a table of symbols that stands between colons is replaced by its text. The block with it is
read like any other one, with quotes and comments, unless the options take these for ordinary
characters. Main statement: `Call.renderSymbols_key`, a template of one key gives the text of the
key if the key is legible, and cannot be parsed otherwise.
-/

namespace Stencil

open Template (Legible Marker Segment betweenColons)

/-! ## Keys -/

/-- A text that is no more and no less than a key when it stands between colons: white space around
it would be lost, colons would end it, newlines would be trimmed, and an asterisk at its end would
ask for several keys. -/
structure IsKey (k : Text) : Prop where
  ne_nil : k ≠ []
  strip_eq : Text.strip k = k
  colon : ':' ∉ k
  newline : '\n' ∉ k
  star : k.getLast? ≠ some '*'

namespace IsKey

variable {k : Text}

theorem allBlank_eq_false (h : IsKey k) : Text.allBlank k = false := by
  obtain ⟨c, rest, rfl⟩ := List.exists_cons_of_ne_nil h.ne_nil
  have hc : Text.isBlank c = false := (Text.strip_eq_self_iff.1 h.strip_eq).1 c rfl
  rw [Text.allBlank, List.all_cons, hc, Bool.false_and]

/-- A key has no mark. -/
theorem remove?_eq_none (h : IsKey k) : Marker.star.remove? k = none := by
  cases hmarked : Marker.star.remove? k with
  | none => rfl
  | some body =>
    obtain ⟨before, after, left, hk, hleft, -⟩ := Marker.remove?_eq_some hmarked
    have hblank : Text.allBlank after = true := by
      by_contra hno
      simp [Marker.leftAfter?, Marker.star, hno] at hleft
    -- what follows the mark is blank, so it is neither empty nor the end of the key
    obtain rfl | ⟨front, c, rfl⟩ := List.eq_nil_or_concat' after
    · exact absurd (by rw [hk, List.append_nil]; exact List.getLast?_concat) h.star
    · have hend : k.getLast? = some c := by
        rw [hk, ← List.append_assoc]
        exact List.getLast?_concat
      have hc : Text.isBlank c = false := (Text.strip_eq_self_iff.1 h.strip_eq).2 c hend
      have hc' : Text.isBlank c = true := List.all_eq_true.1 hblank c (by simp)
      exact absurd hc' (by simp [hc])

/-- A key is looked up as it is. -/
theorem lookUp_eq (h : IsKey k) {table : Table} {v : Value} (hv : table.lookup k = some v)
    (sep : Text) (s : Store) : lookUp table .star sep k s = (.ok v, s) := by
  rw [lookUp, h.strip_eq, h.remove?_eq_none, hv]
  rfl

end IsKey

/-! ## Calls -/

/-- Options with blocks between colons, which are looked up in a table. -/
def Options.forSymbols (o : Options) (table : Table) : Options :=
  ⟨{ o.layout with rules := o.layout.rules.betweenColons }, .transformer (.lookup table .star [])⟩

namespace Call

variable {options : OptionsSource} {o : Options} {s : Store}

/-- Symbols are rendered like any other template once the options are set for them. -/
theorem renderSymbols_eq_render {c : Call} (hnames : c.refuse parameters = .ok ())
    (ho : options.toOptions = .ok o) (table : Table) :
    c.renderSymbols (some table) options s = c.render (.options (o.forSymbols table)) s := by
  have hnames' : c.refuse ([] ++ parameters) = .ok () := hnames
  rw [renderSymbols, renderWith, hnames', Run.ofExcept_ok_bind, ho, Run.ofExcept_ok_bind,
    Run.ofExcept_ok_bind, render, hnames, Run.ofExcept_ok_bind]
  rfl

/-- A call with a template that is a single symbol, and without a context and variables. -/
def ofSymbol (registry : Registry) (k : Text) : Call :=
  ⟨registry, .whole (betweenColons k), .nothing, []⟩

theorem prepare_betweenColons {k : Text} (hk : IsKey k) (l : Layout) :
    l.prepare (.whole (betweenColons k)) = Template.parse l.rules (betweenColons k) := by
  have hline : '\n' ∉ betweenColons k := by
    simpa [betweenColons] using hk.newline
  rw [Layout.prepare, TemplateSource.join, Template.trim_of_not_mem hline, ite_self]

/-- A key becomes one row, which is the text that the table has for it. -/
theorem render_of_prepare_eq_ok {registry : Registry} {k v : Text} {table : Table} {n : Nat}
    (hk : IsKey k) (hv : table.lookup k = some (.text v))
    (h : (o.forSymbols table).layout.prepare (.whole (betweenColons k)) =
      .ok [.expression k 0 n]) :
    (ofSymbol registry k).render (.options (o.forSymbols table)) s = (.ok [v], s) := by
  have hopening : (ofSymbol registry k).opening (o.forSymbols table) s =
      .ok (Context.empty.freeze s, [.expression k 0 n]) :=
    opening_eq_ok_iff.2 ⟨rfl, h, .empty, .empty, rfl, rfl, rfl⟩
  have hpieces : segmentsTexts (.lookup table .star []) (Context.empty.freeze s) o.layout.na
      [.expression k 0 n] s = (.ok [[v]], s) := by
    have hpiece : segmentTexts (lookUp table .star []) o.layout.na (.expression k 0 n) s =
        (.ok [v], s) := by
      rw [segmentTexts, Run.bind_of_ok (hk.lookUp_eq hv [] s)]
      rfl
    rw [segmentsTexts, List.mapM_cons]
    exact (Run.bind_of_ok hpiece).trans rfl
  rw [render_of_opening_eq_ok rfl rfl hopening hpieces, Run.ofExcept_ok_bind]
  exact assemble_single o.layout.broadcast v s

/-- A key that stands between colons gives its text if it is legible: if each quote that is not in a
quoted span starts one that ends within the key, and no comment starts outside them. Otherwise the
template cannot be parsed. Where quotes and comments are ordinary characters all keys give their
texts. -/
theorem renderSymbols_key (registry : Registry) {k v : Text} {table : Table}
    (ho : options.toOptions = .ok o) (hcomment : o.layout.rules.comment ≠ [':']) (hk : IsKey k)
    (hv : table.lookup k = some (.text v)) (s : Store) :
    let rules := o.layout.rules.betweenColons
    let run := (ofSymbol registry k).renderSymbols (some table) options s
    (Legible rules k → run = (.ok [v], s)) ∧
    (¬ Legible rules k → ∃ e, run = (.error (.parse e), s) ∧ e.offset = 0) ∧
    (rules.literal = true → run = (.ok [v], s)) := by
  intro rules run
  have hrun : run = (ofSymbol registry k).render (.options (o.forSymbols table)) s :=
    renderSymbols_eq_render rfl ho table
  have hprepare : (o.forSymbols table).layout.prepare (.whole (betweenColons k)) =
      Template.parse rules (betweenColons k) :=
    prepare_betweenColons hk (o.forSymbols table).layout
  have hplain : Template.StartsPlain rules [':'] := by
    refine .inr fun c hc => ?_
    obtain rfl := Option.some.inj hc
    exact ⟨rfl, hcomment⟩
  obtain ⟨hparse, hfault⟩ :=
    Template.parse_betweenColons hplain hk.colon hk.newline hk.allBlank_eq_false
  have hlegible (h : Legible rules k) : run = (.ok [v], s) := by
    rw [hrun]
    exact render_of_prepare_eq_ok hk hv (hprepare.trans (hparse h))
  refine ⟨hlegible, fun h => ?_, fun h => hlegible (Template.legible_of_literal h k)⟩
  · obtain ⟨e, he, hoffset⟩ := hfault h
    refine ⟨e, ?_, hoffset⟩
    rw [hrun]
    exact render_of_opening_eq_error rfl rfl (opening_of_prepare_eq_error rfl (hprepare.trans he))

/-- A key with a number sign in a quoted span, under the usual options. -/
theorem renderSymbols_key_quoted :
    let k : Text := "say \"#\"".toList
    let table : Table := [(k, .text ['x'])]
    IsKey k ∧ Legible Template.BlockRules.standard.betweenColons k ∧
      (ofSymbol .installed k).renderSymbols (some table) .nothing .empty =
        (.ok [['x']], .empty) := by
  intro k table
  have hk : IsKey k := ⟨by decide, by decide, by decide, by decide, by decide⟩
  have hlegible : Legible Template.BlockRules.standard.betweenColons k :=
    Template.legible_of_closes (s := k ++ [':']) (by decide)
      (Template.findClose_eq_ok_iff.1 (by decide +kernel))
  have ho : OptionsSource.nothing.toOptions = .ok .standard := rfl
  exact ⟨hk, hlegible, (renderSymbols_key .installed ho (by decide) hk rfl .empty).1 hlegible⟩

/-- An apostrophe in a key starts a quoted span that never ends. -/
theorem renderSymbols_key_apostrophe :
    let k : Text := "it's".toList
    let table : Table := [(k, .text ['x'])]
    IsKey k ∧ table.lookup k = some (.text ['x']) ∧
      (ofSymbol .installed k).renderSymbols (some table) .nothing .empty =
        (.error (.parse (.openQuote 3 0)), .empty) := by
  intro k table
  have hk : IsKey k := ⟨by decide, by decide, by decide, by decide, by decide⟩
  have hprepare : (Options.standard.forSymbols table).layout.prepare (.whole (betweenColons k)) =
      .error (.openQuote 3 0) := by
    rw [prepare_betweenColons hk]
    decide +kernel
  refine ⟨hk, rfl, ?_⟩
  rw [renderSymbols_eq_render rfl rfl]
  exact render_of_opening_eq_error rfl rfl (opening_of_prepare_eq_error rfl hprepare)

end Call
end Stencil
