import Stencil.Proofs.Render.Invocations
import Stencil.Proofs.Rows.Width

/-!
# Transformers and their delegates

Transformers that leave the evaluation to a delegate make chains (`chain`). Two kinds of links join
the elements of marked blocks (`Joiner`), and may have a text of their own for missing elements. A
call gives its text for missing values to the outermost link and to no other. Main statement:
`Call.render_chain`, a joiner without a text of its own writes missing elements as the call says if
it is the outermost link, and as the standard layout says otherwise.
-/

namespace Stencil

open Template (Marker)

/-! ## Joining -/

theorem Rendering.ofFaults_eq_ok_iff {α : Type} {c : Run Fault α} {a : α} {s s' : Store} :
    Rendering.ofFaults c s = (.ok a, s') ↔ c s = (.ok a, s') := by
  rw [Rendering.ofFaults, Run.mapError_apply]
  rcases c s with ⟨f | b, s₁⟩
  · exact ⟨fun h => absurd h Run.ok_ne_error.symm, fun h => absurd h Run.ok_ne_error.symm⟩
  · constructor
    · intro h
      obtain ⟨rfl, rfl⟩ := Run.ok_inj h
      rfl
    · intro h
      obtain ⟨rfl, rfl⟩ := Run.ok_inj h
      rfl

theorem Store.elementText_eq_ok_iff {s : Store} {na : Text} {v : Value} {text : Text} :
    s.elementText na v = .ok text ↔ if v.isMissing then text = na else s.text v = .ok text := by
  unfold Store.elementText
  split
  · rw [Except.ok.injEq, eq_comm]
  · exact Iff.rfl

/-- Elements are joined and then cut, unless there are none. -/
theorem collapse_eq_ok_iff {j : Joining} {v : Value} {joined : Text} {s s' : Store} :
    collapse j v s = (.ok joined, s') ↔
      ∃ texts, vectorTexts j.na v s = (.ok texts, s') ∧
        (if texts = [] then .ok [] else truncateTo j.width (joinLast j.sep j.last texts)) =
          .ok joined := by
  rw [collapse, Run.bind_eq_ok_iff]
  constructor
  · rintro ⟨texts, s₁, htexts, h⟩
    cases texts with
    | nil =>
      obtain ⟨rfl, rfl⟩ := Run.ok_inj h
      exact ⟨[], htexts, rfl⟩
    | cons text texts =>
      obtain ⟨hjoined, rfl⟩ := Prod.mk.inj h
      exact ⟨text :: texts, htexts, hjoined⟩
  · rintro ⟨texts, htexts, h⟩
    refine ⟨texts, s', htexts, ?_⟩
    cases texts with
    | nil => exact congrArg (·, s') h
    | cons text texts => exact congrArg (·, s') h

/-! ## Joiners -/

/-- A transformer that joins the elements of marked blocks, without its delegate. -/
inductive Joiner
  | collapse (c : Collapsing)
  | showing (na : Option Text)

namespace Joiner

/-- The text that a joiner has of its own for missing elements. -/
def na : Joiner → Option Text
  | collapse c => c.na
  | showing na => na

/-- The mark of the blocks that a joiner joins the elements of. -/
def marker : Joiner → Marker
  | collapse c => c.marker
  | showing _ => .equals

/-- The joiner with a text for missing elements, unless it has one of its own. -/
def given (n : Text) : Joiner → Joiner
  | collapse c => collapse { c with na := some (c.na.getD n) }
  | showing na => showing (some (na.getD n))

/-- What a joiner makes of the texts of the elements of a block. -/
def join (body : Text) (texts : List Text) : Joiner → Except Fault Text
  | collapse c => if texts = [] then .ok [] else truncateTo c.width (joinLast c.sep c.last texts)
  | showing _ => .ok (showElements body texts)

/-- A joiner around a delegate. -/
def on : Joiner → Transformer → Transformer
  | collapse c, delegate => .collapse c delegate
  | showing na, delegate => .showing na delegate

theorem given_given (n m : Text) (j : Joiner) : (j.given n).given m = j.given n := by
  cases j <;> rfl

theorem adapted_on (j : Joiner) (d : Transformer) (l : Layout) :
    (j.on d).adapted l = (j.given l.na).on d := by
  rcases j with ⟨marker, sep, width, last, na⟩ | na <;> cases na <;> rfl

/-- The text of the standard layout is what joiners use anyway. -/
theorem apply_given_on (j : Joiner) (d : Transformer) :
    ((j.given Layout.standard.na).on d).apply = (j.on d).apply := by
  funext text c
  cases j with
  | collapse collapsing =>
    have hjoining : ({ collapsing with na := some (collapsing.na.getD Layout.standard.na) } :
        Collapsing).joining = collapsing.joining := rfl
    simp only [given, on, Transformer.apply, hjoining]
  | showing na =>
    have hna : naOrStandard (some (na.getD Layout.standard.na)) = naOrStandard na := rfl
    simp only [given, on, Transformer.apply, hna]

/-- In a marked block, a joiner without a text of its own for missing elements joins the texts of
the elements, missing ones as the text that it is given. -/
theorem apply_given_on_eq_ok_iff {j : Joiner} {n : Text} (hj : j.na = none)
    {delegate : Transformer} {text body : Text} {c : Context} {s s₁ s₂ : Store} {v w : Value}
    (hmark : j.marker.remove? text = some body) (hv : delegate.apply body c s = (.ok v, s₁)) :
    ((j.given n).on delegate).apply text c s = (.ok w, s₂) ↔
      ∃ texts joined, vectorTexts n v s₁ = (.ok texts, s₂) ∧ j.join body texts = .ok joined ∧
        w = .text joined := by
  cases j with
  | collapse collapsing =>
    obtain ⟨marker, sep, width, last, na⟩ := collapsing
    obtain rfl : na = none := hj
    have hmark : marker.remove? text = some body := hmark
    simp only [given, on, Transformer.apply, hmark]
    rw [Run.bind_of_ok hv, Rendering.ofFaults_eq_ok_iff, Run.bind_eq_ok_iff]
    simp only [collapse_eq_ok_iff]
    constructor
    · rintro ⟨joined, s', ⟨texts, htexts, hjoined⟩, hw⟩
      obtain ⟨rfl, rfl⟩ := Run.ok_inj hw
      exact ⟨texts, joined, htexts, hjoined, rfl⟩
    · rintro ⟨texts, joined, htexts, hjoined, rfl⟩
      exact ⟨joined, s₂, ⟨texts, htexts, hjoined⟩, rfl⟩
  | showing na =>
    obtain rfl : na = none := hj
    have hmark : Marker.equals.remove? text = some body := hmark
    simp only [given, on, Transformer.apply, hmark]
    rw [Run.bind_of_ok hv, Run.bind_eq_ok_iff]
    simp only [Rendering.ofFaults_eq_ok_iff]
    constructor
    · rintro ⟨texts, s', htexts, hw⟩
      obtain ⟨rfl, rfl⟩ := Run.ok_inj hw
      exact ⟨texts, _, htexts, rfl, rfl⟩
    · rintro ⟨texts, joined, htexts, hjoined, rfl⟩
      obtain rfl := Except.ok.inj hjoined
      exact ⟨texts, s₂, htexts, rfl⟩

end Joiner

/-! ## Chains -/

/-- A transformer that has a delegate, without it. -/
inductive Link
  | joins (j : Joiner)
  | shell (way : Shell)
  | sprintf
  | safely (fallback : Fallback)

namespace Link

/-- A link around a delegate. -/
def on : Link → Transformer → Transformer
  | joins j, delegate => j.on delegate
  | shell way, delegate => .shell way delegate
  | sprintf, delegate => .sprintf delegate
  | safely fallback, delegate => .safely fallback delegate

/-- A link with a text for missing elements, if it joins any and has none of its own. -/
def given (n : Text) : Link → Link
  | joins j => joins (j.given n)
  | l => l

theorem given_given (n m : Text) (l : Link) : (l.given n).given m = l.given n := by
  cases l with
  | joins j => exact congrArg joins (j.given_given n m)
  | _ => rfl

/-- A link takes over the text for missing values, and leaves its delegate alone. -/
theorem adapted_on (l : Link) (d : Transformer) (layout : Layout) :
    (l.on d).adapted layout = (l.given layout.na).on d := by
  cases l with
  | joins j => exact j.adapted_on d layout
  | _ => rfl

theorem apply_given_on (l : Link) (d : Transformer) :
    ((l.given Layout.standard.na).on d).apply = (l.on d).apply := by
  cases l with
  | joins j => exact j.apply_given_on d
  | _ => rfl

/-- Links around delegates that do the same do the same. -/
theorem apply_on_congr {d d' : Transformer} (h : d.apply = d'.apply) (l : Link) :
    (l.on d).apply = (l.on d').apply := by
  funext text c
  rcases l with (_ | _) | _ | _ | _ <;> simp only [on, Joiner.on, Transformer.apply, h]

end Link

/-- Links around one another, and all of them around a transformer. -/
def chain (links : List Link) (base : Transformer) : Transformer := links.foldr Link.on base

theorem chain_append (front back : List Link) (base : Transformer) :
    chain (front ++ back) base = chain front (chain back base) :=
  List.foldr_append

/-- The links of a chain with all that a call with the text `m` leaves them to write missing
elements as: the first takes it over. -/
def settled (m : Text) : List Link → List Link
  | [] => []
  | l :: links => l.given m :: links.map (Link.given Layout.standard.na)

theorem settled_append (m : Text) (front : List Link) (l : Link) (back : List Link) :
    settled m (front ++ l :: back) =
      settled m front ++ l.given (if front = [] then m else Layout.standard.na) ::
        back.map (Link.given Layout.standard.na) := by
  cases front with
  | nil => rfl
  | cons first front => simp [settled]

/-- The text of the standard layout makes no difference anywhere in a chain. -/
theorem apply_chain_map_given (links : List Link) (base : Transformer) :
    (chain (links.map (Link.given Layout.standard.na)) base).apply = (chain links base).apply := by
  induction links with
  | nil => rfl
  | cons l links ih => exact (l.apply_given_on _).trans (l.apply_on_congr ih)

/-- Under a layout, a chain does what it does with its links settled. -/
theorem apply_adapted_chain {links : List Link} (h : links ≠ []) (base : Transformer)
    (layout : Layout) :
    ((chain links base).adapted layout).apply = (chain (settled layout.na links) base).apply := by
  obtain ⟨l, links, rfl⟩ := List.exists_cons_of_ne_nil h
  have hadapted : (chain (l :: links) base).adapted layout =
      (l.given layout.na).on (chain links base) := l.adapted_on _ layout
  rw [hadapted]
  exact (l.given layout.na).apply_on_congr (apply_chain_map_given links base).symm

theorem adapted_chain_settled {links : List Link} (h : links ≠ []) (base : Transformer)
    (layout : Layout) :
    (chain (settled layout.na links) base).adapted layout =
      chain (settled layout.na links) base := by
  obtain ⟨l, links, rfl⟩ := List.exists_cons_of_ne_nil h
  have hadapted := (l.given layout.na).adapted_on
    (chain (links.map (Link.given Layout.standard.na)) base) layout
  rwa [Link.given_given] at hadapted

namespace Call

/-- A call chooses the transformer, which it is given or which its registry makes for a name. -/
def Chooses (c : Call) (o : Options) (s : Store) (t : Transformer) : Prop :=
  o.transformer = .transformer t ∨
    ∃ name, o.transformer = .name name ∧ (c.registry.get s (.text name)).1 = .ok t

theorem Chooses.resolve_eq {c : Call} {o : Options} {s : Store} {t : Transformer}
    (h : c.Chooses o s t) :
    c.registry.resolve s (some o.layout) o.transformer.given = .ok (t.adapted o.layout) := by
  obtain h | ⟨name, h, hname⟩ := h
  · rw [h]
    rfl
  · rw [h]
    simp only [Choice.given, Registry.resolve, Value.text?, hname]
    rfl

/-- A call with a chain is one with the chain settled. -/
theorem render_chain_settled {c : Call} {options : OptionsSource} {o : Options} {links : List Link}
    {base : Transformer} {s : Store} (ho : options.toOptions = .ok o) (hlinks : links ≠ [])
    (h : c.Chooses o s (chain links base)) :
    c.render options s =
      c.render (.options (o.withTransformer (chain (settled o.layout.na links) base))) s := by
  have hresolve := h.resolve_eq
  have hsettled : c.Chooses (o.withTransformer (chain (settled o.layout.na links) base)) s
      (chain (settled o.layout.na links) base) := .inl rfl
  have hsame := hsettled.resolve_eq.trans
    (congrArg Except.ok (adapted_chain_settled hlinks base o.layout))
  rw [render_eq ho hresolve, render_eq rfl hsame, apply_adapted_chain hlinks]
  rfl

/-- A joiner in a chain, without a text of its own for missing elements: the call is one with a
chain in which the joiner has such a text, namely that of the call if it is the outermost link, and
that of the standard layout otherwise. With it, the joiner makes its text of marked blocks from the
texts of their elements, missing ones as that text, if all have one. -/
theorem render_chain {c : Call} {options : OptionsSource} {o : Options} {front back : List Link}
    {j : Joiner} {base : Transformer} {s : Store} (ho : options.toOptions = .ok o)
    (hj : j.na = none) (hchain : c.Chooses o s (chain (front ++ .joins j :: back) base)) :
    let n := if front = [] then o.layout.na else Layout.standard.na
    let delegate := chain (back.map (Link.given Layout.standard.na)) base
    let joiner := (j.given n).on delegate
    c.render options s =
        c.render (.options (o.withTransformer (chain (settled o.layout.na front) joiner))) s ∧
      ∀ {text body : Text} {context : Context} {s₁ s₂ s₃ s₄ : Store} {v w : Value}
        {items : List Value}, j.marker.remove? text = some body →
        delegate.apply body context s₁ = (.ok v, s₂) → asVector v s₂ = (.ok items, s₃) →
        (joiner.apply text context s₁ = (.ok w, s₄) ↔
          s₄ = s₃ ∧ ∃ texts joined, j.join body texts = .ok joined ∧ w = .text joined ∧
            List.Forall₂ (fun item text =>
              if item.isMissing then text = n else s₃.text item = .ok text) items texts) := by
  intro n delegate joiner
  constructor
  · have hsettled : chain (settled o.layout.na (front ++ .joins j :: back)) base =
        chain (settled o.layout.na front) joiner := by
      rw [settled_append, chain_append]
      rfl
    rw [render_chain_settled ho (by simp) hchain, hsettled]
  · intro text body context s₁ s₂ s₃ s₄ v w items hmark hv hitems
    rw [Joiner.apply_given_on_eq_ok_iff hj hmark hv]
    simp only [vectorTexts_eq_ok_iff, Store.elementText_eq_ok_iff]
    constructor
    · rintro ⟨texts, joined, ⟨items', hitems', htexts⟩, hjoined, hw⟩
      obtain ⟨rfl, rfl⟩ := Run.ok_inj (hitems.symm.trans hitems')
      exact ⟨rfl, texts, joined, hjoined, hw, htexts⟩
    · rintro ⟨rfl, texts, joined, hjoined, hw, htexts⟩
      exact ⟨texts, joined, ⟨items, hitems, htexts⟩, hjoined, hw⟩

/-- One joiner inside another: the outer one writes missing elements as the call says, and the inner
one as the standard layout does. -/
theorem render_chain_nested :
    let base : Transformer := .lookup [(['x'], .none)] .star []
    let inner : Joiner := .collapse .standard
    let outer : Joiner := .showing none
    let o : Options := ⟨{ Layout.standard with na := ['-'] },
      .transformer (chain [.joins outer, .joins inner] base)⟩
    let c : Call := ⟨.installed, .whole "{x*}, {x=}".toList, .nothing, []⟩
    let collapsing : Transformer :=
      .collapse { Collapsing.standard with na := some "NA".toList } base
    inner.na = none ∧ c.Chooses o .empty (chain ([.joins outer] ++ .joins inner :: []) base) ∧
      c.render (.options o) .empty =
        c.render (.options (o.withTransformer (.showing (some ['-']) collapsing))) .empty ∧
      collapsing.apply ['x', '*'] .empty .empty = (.ok (.text "NA".toList), .empty) ∧
      (c.render (.options o) .empty).1 = .ok ["NA, x = -".toList] := by
  intro base inner outer o c collapsing
  have hchain : c.Chooses o .empty (chain ([.joins outer] ++ .joins inner :: []) base) := .inl rfl
  have ho : (OptionsSource.options o).toOptions = .ok o := rfl
  have hinner : inner.na = none := rfl
  obtain ⟨hown, hjoined⟩ := render_chain ho hinner hchain
  have hmark : inner.marker.remove? ['x', '*'] = some ['x'] := rfl
  have hv : base.apply ['x'] .empty .empty = (.ok .none, .empty) := rfl
  have hitems : asVector .none .empty = (.ok [.none], .empty) := rfl
  have htexts : inner.join ['x'] ["NA".toList] = .ok "NA".toList := by
    apply eq_ok_of_match
    decide +kernel
  refine ⟨hinner, hchain, hown, (hjoined hmark hv hitems).2 ⟨rfl, _, _, htexts, rfl, ?_⟩, ?_⟩
  · exact .cons rfl .nil
  · apply eq_ok_of_match
    decide +kernel

/-- A missing element that is collapsed in a format's delegate is not written as the call says. -/
theorem render_chain_inside_sprintf :
    let o : Options := ⟨{ Layout.standard with na := ['-'] },
      .transformer (chain [.sprintf, .joins (.collapse .standard)] .identity)⟩
    let c : Call := ⟨.installed, .whole "{[None]*}".toList, .nothing, []⟩
    Collapsing.standard.na = none ∧ (c.render (.options o) .empty).1 = .ok ["NA".toList] := by
  intro o c
  refine ⟨rfl, ?_⟩
  apply eq_ok_of_match
  decide +kernel

end Call

end Stencil
