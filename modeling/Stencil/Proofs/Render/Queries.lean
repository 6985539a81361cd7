import Stencil.Proofs.Transform.Marked
import Stencil.Render.Call

/-!
# Missing values in queries

What a transformer makes of a block of a query consists of fragments, and no fragment is a missing
value (`segmentTexts_queryFragments`). Main statement: `Call.renderQuery_congr`, neither the text
for missing values nor the transformer that the options of a query choose makes any difference to
it.
-/

namespace Stencil

/-! ## The texts of blocks -/

/-- The text of a fragment is the fragment, whatever missing values are written as. -/
theorem mapM_toText_fragments (na : Text) (quoted : List Text) (s : Store) :
    ((quoted.map Value.fragment).mapM (toText na)) s = (.ok quoted, s) := by
  rw [Run.mapM_of_reads (fun v => toText_apply na v s)]
  refine congrArg (·, s) (mapM_eq_ok_iff.2 ?_)
  rw [List.forall₂_map_left_iff, List.forall₂_same]
  exact fun _ _ => rfl

/-- The elements of a block of a query as texts: quoted ones in a list, or all of them in one. -/
theorem vectorTexts_queryFragments {d : Dialect} {c : Context} {text : Text} {v : Value}
    {s s' : Store} (h : queryFragments d c text s = (.ok v, s')) :
    ∃ texts, ∀ na, vectorTexts na v s' = (.ok texts, s') := by
  rw [queryFragments_eq] at h
  obtain ⟨quoted, s₁, -, h⟩ := Run.bind_eq_ok_iff.1 h
  split at h
  · obtain ⟨rfl, rfl⟩ := Run.ok_inj h
    exact ⟨_, fun na => rfl⟩
  · obtain ⟨rfl, rfl⟩ := Run.ok_inj h
    refine ⟨quoted, fun na => ?_⟩
    rw [vectorTexts, Run.bind_of_ok (asVector_newList _ s₁)]
    exact mapM_toText_fragments na quoted _

/-- Missing values of a block of a query are written before its texts are taken. -/
theorem segmentTexts_queryFragments (d : Dialect) (c : Context) (na na' : Text) :
    segmentTexts (queryFragments d c) na = segmentTexts (queryFragments d c) na' := by
  funext segment s
  cases segment with
  | literal text raw => rfl
  | expression text start stop =>
    simp only [segmentTexts]
    rcases hvalue : queryFragments d c text s with ⟨p | v, s'⟩
    · rw [Run.bind_of_error hvalue, Run.bind_of_error hvalue]
    · obtain ⟨texts, htexts⟩ := vectorTexts_queryFragments hvalue
      rw [Run.bind_of_ok hvalue, Run.bind_of_ok hvalue, Rendering.ofFaults, Rendering.ofFaults,
        Run.mapError_apply, Run.mapError_apply, htexts, htexts]

/-! ## Calls -/

namespace Call

variable {c : Call} {options options' : OptionsSource} {o o' : Options}

/-- The rows of a query are put together from the fragments of its blocks. -/
theorem rows_sql (c : Call) (o : Options) (d : Dialect) :
    c.rows (o.withTransformer (.sql d)) = (do
      let segments ← Run.ofExcept ((o.layout.prepare c.template).mapError .parse)
      let context ← Run.ofExcept (c.context.toContext.mapError .context)
      let bound ← Run.ofExcept ((context.bind c.names).mapError .argument)
      let s ← get
      renderSegments (queryFragments d (bound.freeze s)) o.layout segments) := rfl

/-- Options that differ in the text for missing values alone give a query the same rows. -/
theorem rows_sql_congr (h : o'.layout = { o.layout with na := o'.layout.na }) (d : Dialect) :
    c.rows (o'.withTransformer (.sql d)) = c.rows (o.withTransformer (.sql d)) := by
  have hprepare : o'.layout.prepare = o.layout.prepare := by rw [h]; rfl
  have hsegments (snapshot : Context) : renderSegments (queryFragments d snapshot) o'.layout =
      renderSegments (queryFragments d snapshot) o.layout := by
    funext segments
    rw [renderSegments, renderSegments, h,
      segmentTexts_queryFragments d snapshot o'.layout.na o.layout.na]
  simp only [rows_sql, hprepare, hsegments]

/-- A query chooses its dialect between checking the options and reading the template. -/
theorem renderQuery_eq (ho : options.toOptions = .ok o) (handle : Value) (s : Store) :
    c.renderQuery handle options s = (do
      Run.ofExcept (c.refuse ("connection" :: parameters))
      let dialect ← Run.ofExcept ((Dialect.ofHandle handle).mapError .quoting)
      let rows ← c.rows (o.withTransformer (.sql dialect))
      return rows.map .fragment : Rendering (List Value)) s := by
  have hnames : c.refuse (["connection"] ++ parameters) = c.refuse ("connection" :: parameters) :=
    rfl
  rw [renderQuery, renderWith, ho, hnames]
  cases c.refuse ("connection" :: parameters) with
  | error p => rfl
  | ok _ => cases Dialect.ofHandle handle <;> rfl

/-- Two runs of a query under options that differ at most in the text for missing values and in the
transformer come to the same: the same rows, or the same error, and the same notices before it. -/
theorem renderQuery_congr (ho : options.toOptions = .ok o) (ho' : options'.toOptions = .ok o')
    (h : o'.layout = { o.layout with na := o'.layout.na }) (handle : Value) (s : Store) :
    c.renderQuery handle options' s = c.renderQuery handle options s := by
  rw [renderQuery_eq ho, renderQuery_eq ho']
  simp only [rows_sql_congr h]

/-- Missing elements, one in a list and one in a joined list, under options that write missing
values as a dash and choose a transformer. -/
theorem renderQuery_congr_missing :
    let c : Call :=
      ⟨.installed, .whole "\x7b[None, 1]\x7d, \x7b[None, 2]*\x7d".toList, .nothing, []⟩
    let given : GivenOptions := [("na".toList, .value (.text ['-'])),
      ("transformer".toList, .transformer (.showing none .identity))]
    let o : Options := ⟨{ Layout.standard with na := ['-'] },
      .transformer (.showing none .identity)⟩
    OptionsSource.nothing.toOptions = .ok .standard ∧
      (OptionsSource.given given).toOptions = .ok o ∧
      o.layout = { Options.standard.layout with na := o.layout.na } ∧
      c.renderQuery .none (.given given) .empty = c.renderQuery .none .nothing .empty ∧
      ((c.renderQuery .none .nothing .empty).1.toOption.map fun rows => rows.map Value.text?) =
        some [some "NULL, NULL, 2".toList, some "1, NULL, 2".toList] := by
  intro c given o
  have ho : OptionsSource.nothing.toOptions = .ok .standard := rfl
  have ho' : (OptionsSource.given given).toOptions = .ok o := rfl
  have h : o.layout = { Options.standard.layout with na := o.layout.na } := rfl
  refine ⟨ho, ho', h, renderQuery_congr ho ho' h .none .empty, ?_⟩
  decide +kernel

end Call

end Stencil
