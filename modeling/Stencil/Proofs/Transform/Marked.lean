import Stencil.Proofs.Render.Rows
import Stencil.Proofs.Text.Blank

/-!
# Marked blocks

A block is marked if its last character that is not blank is an asterisk, and it is marked once
however many asterisks are there (`Marker.remove?_star_eq_some_iff`). A query quotes the elements of
a block before it looks at the mark again (`quotedElements`), so a mark only decides whether they
stay a list (`queryFragments_eq`). Main statement: `Transformer.apply_append_star`, with an asterisk
and blanks behind it a block is what it was without them, but joined.
-/

namespace Stencil

open Text

/-! ## The mark -/

namespace Template.Marker

/-- An asterisk in front of blanks is the mark, whatever comes before it. -/
theorem remove?_star_append (t : Text) {w : Text} (hw : allBlank w = true) :
    star.remove? (t ++ '*' :: w) = some t := by
  induction t with
  | nil =>
    have hmark : (after? star.mark ('*' :: w)).bind star.leftAfter? = some [] := by
      simp [star, after?, leftAfter?, hw]
    rw [List.nil_append, remove?, hmark]
  | cons c t ih =>
    have hrest : allBlank (t ++ '*' :: w) = false := by
      simp [allBlank, show isBlank '*' = false by decide]
    -- an asterisk before the last one is not the mark
    have hmark : (after? star.mark (c :: (t ++ '*' :: w))).bind star.leftAfter? = none := by
      simp [star, after?, leftAfter?, hrest]
    rw [List.cons_append, remove?, hmark, ih]
    rfl

/-- A block is marked if it is a body, an asterisk and blanks, and that body is left. -/
theorem remove?_star_eq_some_iff {s t : Text} :
    star.remove? s = some t ↔ ∃ w, allBlank w = true ∧ s = t ++ '*' :: w := by
  constructor
  · intro h
    obtain ⟨body, after, left, rfl, hleft, rfl⟩ := remove?_eq_some h
    have hblank : (if allBlank after = true then some [] else none) = some left := hleft
    split at hblank
    · obtain rfl := Option.some.inj hblank
      exact ⟨after, ‹_›, by simp [star]⟩
    · exact absurd hblank (by simp)
  · rintro ⟨w, hw, rfl⟩
    exact remove?_star_append t hw

/-- A block that does not end in an asterisk, blanks apart, is not marked. -/
theorem remove?_star_eq_none {t : Text} (h : (dropEnd isBlank t).getLast? ≠ some '*') :
    star.remove? t = none := by
  cases hmark : star.remove? t with
  | none => rfl
  | some body =>
    obtain ⟨w, hw, rfl⟩ := remove?_star_eq_some_iff.1 hmark
    have hblank : ∀ c ∈ w.reverse, isBlank c = true := fun c hc =>
      List.all_eq_true.1 hw c (List.mem_reverse.1 hc)
    have hbody : dropEnd isBlank (body ++ '*' :: w) = body ++ ['*'] := by
      rw [dropEnd, List.reverse_append, List.reverse_cons, List.append_assoc,
        List.dropWhile_append_of_pos hblank, List.singleton_append, List.dropWhile_cons_of_neg
          (by decide), List.reverse_cons, List.reverse_reverse]
    exact absurd (by simp [hbody]) h

theorem strip_star_append (t : Text) {w : Text} (hw : allBlank w = true) :
    star.strip (t ++ '*' :: w) = (t, true) := by
  rw [strip, remove?_star_append t hw]

theorem strip_star_eq_self {t : Text} (h : (dropEnd isBlank t).getLast? ≠ some '*') :
    star.strip t = (t, false) := by
  rw [strip, remove?_star_eq_none h]

end Template.Marker

open Template (Marker)

/-! ## Queries -/

/-- The elements of the value of a block without its mark, quoted one after another: as names if the
block stands between backticks, and as literals otherwise. -/
def quotedElements (d : Dialect) (c : Context) (body : Text) : Rendering (List Text) := do
  let v ← evaluate ((betweenBackticks? body).getD body) (.context c)
  let items ← Rendering.ofFaults (asVector v)
  items.mapM fun v =>
    Run.ofExcept (if (betweenBackticks? body).isSome then d.quoteName v else d.quoteValue v)

/-- Quoted elements as one element of a query, or nothing as `NULL`. -/
def joinedFragment (quoted : List Text) : Value :=
  .fragment (if quoted = [] then "NULL".toList else joinWith [',', ' '] quoted)

/-- The mark of a block of a query only decides what its quoted elements are put into. -/
theorem queryFragments_eq (d : Dialect) (c : Context) (text : Text) :
    queryFragments d c text = quotedElements d c (Marker.star.strip text).1 >>= fun quoted =>
      if (Marker.star.strip text).2 = true then pure (joinedFragment quoted)
      else Run.newList (quoted.map .fragment) := by
  rw [queryFragments, quotedElements]
  cases hname : betweenBackticks? (Marker.star.strip text).1 with
  | none => simp [hname, joinedFragment]
  | some name => simp [hname, joinedFragment]

/-- A new list has the elements that it is made of. -/
theorem asVector_newList (items : List Value) (s : Store) :
    asVector (.list s.cells.size) (s.push (.list items)) = (.ok items, s.push (.list items)) := by
  have hitems : (s.push (.list items)).elements? (.list s.cells.size) = some items := by
    simp [Store.elements?, Store.items, Store.push]
  have hvector : asVector (.list s.cells.size) (s.push (.list items)) =
      (.ok (((s.push (.list items)).elements? (.list s.cells.size)).getD [.list s.cells.size]),
        s.push (.list items)) := rfl
  rw [hvector, hitems]
  rfl

section

variable {d : Dialect} {c : Context} {t w : Text}

theorem queryFragments_of_star (hw : allBlank w = true) :
    queryFragments d c (t ++ '*' :: w) = quotedElements d c t >>= fun quoted =>
      pure (joinedFragment quoted) := by
  rw [queryFragments_eq, Marker.strip_star_append t hw]
  simp

theorem queryFragments_of_no_star (h : (dropEnd isBlank t).getLast? ≠ some '*') :
    queryFragments d c t = quotedElements d c t >>= fun quoted =>
      Run.newList (quoted.map .fragment) := by
  rw [queryFragments_eq, Marker.strip_star_eq_self h]
  simp

end

namespace Transformer

/-- What an asterisk and blanks behind a block do, whatever the block is and in whatever store it
is evaluated. A transformer that collapses blocks with asterisks joins the elements of what its
delegate makes of the block. One for queries makes one fragment of the elements that it makes of the
block, if that does not end in an asterisk of its own: they stand between commas, or are `NULL` if
there are none. It fails where the block does, for the same reason. -/
theorem apply_append_star {t w : Text} (hw : allBlank w = true) (c : Context) (s : Store) :
    (∀ collapsing delegate, collapsing.marker = .star →
      (collapse collapsing delegate).apply (t ++ '*' :: w) c s =
        (delegate.apply t c >>= fun v =>
          Rendering.ofFaults (Value.text <$> Stencil.collapse collapsing.joining v)) s) ∧
    ∀ d, (dropEnd isBlank t).getLast? ≠ some '*' →
      (∀ p s', (sql d).apply t c s = (.error p, s') ↔
        (sql d).apply (t ++ '*' :: w) c s = (.error p, s')) ∧
      ∀ v s', (sql d).apply t c s = (.ok v, s') → ∃ elements s₁,
        asVector v s' = (.ok (elements.map .fragment), s') ∧
          s' = s₁.push (.list (elements.map .fragment)) ∧
          (sql d).apply (t ++ '*' :: w) c s =
            (.ok (.fragment (if elements = [] then "NULL".toList
              else joinWith [',', ' '] elements)), s₁) := by
  refine ⟨fun collapsing delegate hmarker => ?_, fun d hstar => ?_⟩
  · rw [apply, hmarker, Marker.remove?_star_append t hw]
    simp only [map_eq_pure_bind]
  · have hmarked : (sql d).apply (t ++ '*' :: w) c = quotedElements d c t >>= fun quoted =>
        pure (joinedFragment quoted) := queryFragments_of_star hw
    have hplain : (sql d).apply t c = quotedElements d c t >>= fun quoted =>
        Run.newList (quoted.map .fragment) := queryFragments_of_no_star hstar
    rw [hmarked, hplain]
    -- both ask for the quoted elements, in the same store
    rcases hquoted : quotedElements d c t s with ⟨p | elements, s₁⟩
    · rw [Run.bind_of_error hquoted, Run.bind_of_error hquoted]
      exact ⟨fun p s' => Iff.rfl, fun v s' h => absurd h Run.ok_ne_error.symm⟩
    · rw [Run.bind_of_ok hquoted, Run.bind_of_ok hquoted]
      refine ⟨fun p s' => iff_of_false Run.ok_ne_error Run.ok_ne_error, fun v s' h => ?_⟩
      obtain ⟨rfl, rfl⟩ := Run.ok_inj h
      exact ⟨elements, s₁, asVector_newList _ s₁, rfl, rfl⟩

/-- A block with an asterisk inside and blanks behind, with a missing element. -/
theorem apply_append_star_product :
    let t : Text := "[2*3, None]\n".toList
    let w : Text := [' ', '\x1c']
    let query : Transformer := .sql .standard
    allBlank w = true ∧ (dropEnd isBlank t).getLast? ≠ some '*' ∧
      ∃ v s' s₁, ∃ elements : List Text, query.apply t .empty .empty = (.ok v, s') ∧
        asVector v s' = (.ok (elements.map .fragment), s') ∧
        query.apply (t ++ '*' :: w) .empty .empty = (.ok (.fragment "6, NULL".toList), s₁) := by
  intro t w query
  have hw : allBlank w = true := by decide
  have hstar : (dropEnd isBlank t).getLast? ≠ some '*' := by decide
  have hshown : (query.apply (t ++ '*' :: w) .empty .empty).1.toOption.bind Value.text? =
      some "6, NULL".toList := by
    decide +kernel
  obtain ⟨herror, hok⟩ := (apply_append_star hw .empty .empty).2 .standard hstar
  rcases hplain : query.apply t .empty .empty with ⟨p | v, s'⟩
  · rw [(herror p s').1 hplain] at hshown
    exact absurd hshown (by simp [Except.toOption])
  · obtain ⟨elements, s₁, hitems, -, hmarked⟩ := hok v s' hplain
    rw [hmarked] at hshown
    have hjoined : (if elements = [] then "NULL".toList else joinWith [',', ' '] elements) =
        "6, NULL".toList := Option.some.inj hshown
    rw [hjoined] at hmarked
    exact ⟨hw, hstar, v, s', s₁, elements, rfl, hitems, hmarked⟩

end Transformer

end Stencil
