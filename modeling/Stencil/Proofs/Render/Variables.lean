import Stencil.Proofs.Context.Derivation
import Stencil.Proofs.Render.Invocations

/-!
# Variables beside a context

The variables of a call hide the names of its context, so they can as well be put into the context
(`Context.freeze_withNames_eq`): both ways, blocks see the same names in the same order. Main
statement: `Call.render_variables`, a call with a dictionary and variables is the call with the
dictionary that the variables are laid over. The exception is a variable with the name of a
parameter that binding has and calls do not.
-/

namespace Stencil

open Template (Segment)

/-! ## Names in order -/

/-- A name that is there already adds nothing. -/
theorem eraseDups_append_cons_of_mem {α : Type} [BEq α] [LawfulBEq α] {x : α} {l : List α}
    (h : x ∈ l) (rest : List α) : (l ++ x :: rest).eraseDups = (l ++ rest).eraseDups := by
  have hremoved : (x :: rest).removeAll l = rest.removeAll l := by
    rw [List.cons_removeAll]
    simp [h]
  rw [List.eraseDups_append, List.eraseDups_append, hremoved]

namespace Table

theorem names_put (t : Table) (x : Text) (v : Value) :
    (t.put x v).map (·.1) =
      if x ∈ t.map (·.1) then t.map (·.1) else t.map (·.1) ++ [x] := by
  induction t with
  | nil => rfl
  | cons e t ih =>
    obtain ⟨y, w⟩ := e
    by_cases hy : y = x
    · subst hy
      simp [put]
    · have hne : x ≠ y := Ne.symm hy
      rw [put, if_neg hy, List.map_cons, ih]
      by_cases hx : x ∈ t.map (·.1)
      · simp [hx]
      · simp [hx, hne]

/-- A table laid over another adds its names behind those that are there. -/
theorem eraseDups_names_overlay (l : List Text) (t top : Table) :
    (l ++ (t.overlay top).map (·.1)).eraseDups =
      (l ++ (t.map (·.1) ++ top.map (·.1))).eraseDups := by
  induction top generalizing t with
  | nil => simp [overlay]
  | cons e top ih =>
    obtain ⟨x, v⟩ := e
    have hcons : t.overlay ((x, v) :: top) = (t.put x v).overlay top := rfl
    rw [hcons, ih, names_put, List.map_cons]
    split
    · rename_i hx
      rw [← List.append_assoc, ← List.append_assoc,
        eraseDups_append_cons_of_mem (List.mem_append_right l hx)]
    · rw [List.append_assoc, List.singleton_append]

end Table

/-! ## Frozen names -/

namespace Context

/-- The context that a dictionary stands for. -/
def ofDict (r : Ref) : Context := ⟨[], [], [.live r]⟩

variable {s : Store} {d m : Ref} {v : Table}

theorem layers_withNames_ofDict (d : Ref) (v : Table) :
    ((ofDict d).withNames v).layers = [.fixed (Table.overlay [] v), .fixed [], .live d] := rfl

theorem keys_withNames_ofDict (s : Store) (d : Ref) (v : Table) :
    ((ofDict d).withNames v).keys s = ((s.table d).map (·.1) ++ v.map (·.1)).eraseDups := by
  have hnames : ((ofDict d).withNames v).keys s =
      ((s.table d).map (·.1) ++ (Table.overlay [] v).map (·.1)).eraseDups := by
    simp [keys, layers_withNames_ofDict, Layer.keys]
  rw [hnames, Table.eraseDups_names_overlay, List.map_nil, List.nil_append]

theorem lookup_withNames_ofDict (s : Store) (d : Ref) (v : Table) (x : Text) :
    ((ofDict d).withNames v).lookup s x = ((s.table d).overlay v).lookup x := by
  rw [lookup, layers_withNames_ofDict, Table.lookup_overlay]
  simp only [List.findSome?_cons, Layer.find?, Table.lookup_overlay, List.lookup_nil,
    Option.or_none, List.findSome?_nil]
  cases v.reverse.lookup x <;> cases (s.table d).lookup x <;> rfl

/-- Names given in front of a dictionary freeze to what the dictionary freezes to when they are laid
over it: the same names stand for the same values, in the same order. -/
theorem freeze_withNames_eq (h : s.table m = (s.table d).overlay v) :
    ((ofDict d).withNames v).freeze s = (ofDict m).freeze s := by
  have hmerged : (ofDict m).withNames [] = ofDict m := rfl
  have hkeys : ((ofDict d).withNames v).keys s = (ofDict m).keys s := by
    have hnames := Table.eraseDups_names_overlay [] (s.table d) v
    rw [← hmerged, keys_withNames_ofDict, keys_withNames_ofDict, h, List.map_nil, List.append_nil]
    exact hnames.symm
  have hlookup (x : Text) : ((ofDict d).withNames v).lookup s x = (ofDict m).lookup s x := by
    rw [← hmerged, lookup_withNames_ofDict, lookup_withNames_ofDict, h]
    rfl
  simp only [freeze, flatten, hkeys, hlookup]

end Context

/-! ## Names of parameters -/

theorem refuseNames_eq_ok_iff {parameters : List String} {names : List Text} :
    refuseNames parameters names = .ok () ↔ ∀ x ∈ names, String.ofList x ∉ parameters := by
  rw [refuseNames]
  cases hfound : names.find? fun x => parameters.contains (String.ofList x) with
  | none => simpa using hfound
  | some x =>
    have hx : String.ofList x ∈ parameters := by simpa using List.find?_some hfound
    simp only [reduceCtorEq, false_iff]
    exact fun h => h x (List.mem_of_find?_eq_some hfound) hx

/-! ## Calls -/

/-- The options can be used, and the template can be parsed with them. -/
def OptionsSource.Reads (options : OptionsSource) (template : TemplateSource) : Prop :=
  ∃ o segments, options.toOptions = .ok o ∧ o.layout.prepare template = .ok segments

namespace Call

variable {c c' : Call} {options : OptionsSource} {s : Store}

theorem opening_of_prepare_eq_error {o : Options} {e : Template.ParseError}
    (h : c.refuse parameters = .ok ()) (he : o.layout.prepare c.template = .error e) :
    c.opening o s = .error (.parse e) := by
  rw [opening, h, he]
  rfl

/-- Calls that settle the same give the same. -/
theorem render_congr (hregistry : c.registry = c'.registry) (h : c.refuse parameters = .ok ())
    (h' : c'.refuse parameters = .ok ())
    (hopening : ∀ o, options.toOptions = .ok o → c.opening o s = c'.opening o s) :
    c.render options s = c'.render options s := by
  rw [render_eq_bind, render_eq_bind, h, h', Run.ofExcept_ok_bind, Run.ofExcept_ok_bind]
  cases ho : options.toOptions with
  | error p => rfl
  | ok o => rw [Run.ofExcept_ok_bind, Run.ofExcept_ok_bind, hopening o ho, hregistry]

/-- A variable with the name of the binding parameter stops a call that gets as far as binding. -/
theorem render_of_refused {o : Options} {segments : List Segment} {context : Context} {x : Text}
    (h : c.refuse parameters = .ok ()) (ho : options.toOptions = .ok o)
    (hsegments : o.layout.prepare c.template = .ok segments)
    (hcontext : c.context.toContext = .ok context) (hrefused : context.bind c.names = .error x) :
    c.render options s = (.error (.argument x), s) := by
  have hopening : c.opening o s = .error (.argument x) := by
    rw [opening_eq_map h hsegments hcontext, hrefused]
    rfl
  rw [render_eq_bind, h, Run.ofExcept_ok_bind, ho, Run.ofExcept_ok_bind, hopening]
  rfl

/-- Variables beside a dictionary do what they do in it: the call gives the same rows, notices or
error, and leaves the same store, as the one with a dictionary of the same store that has the names
of the first with the variables laid over them. Only a variable with the name of the binding
parameter stops the call with variables, if it gets as far as binding them. -/
theorem render_variables (registry : Registry) (template : TemplateSource)
    (options : OptionsSource) {s : Store} {d m : Ref} {v : Table}
    (hnames : ∀ x ∈ v.map (·.1), String.ofList x ∉ parameters)
    (hmerged : s.table m = (s.table d).overlay v) :
    let separate : Call := ⟨registry, template, .value (.dict d), v⟩
    let merged : Call := ⟨registry, template, .value (.dict m), []⟩
    let stopped := Context.bindingParameter ∈ v.map (·.1) ∧ options.Reads template
    (¬ stopped → separate.render options s = merged.render options s) ∧
      (stopped → separate.render options s = (.error (.argument Context.bindingParameter), s)) := by
  intro separate merged stopped
  have hseparate : separate.refuse parameters = .ok () := refuseNames_eq_ok_iff.2 hnames
  constructor
  · intro hgoes
    refine render_congr rfl hseparate rfl fun o ho => ?_
    cases hsegments : o.layout.prepare template with
    | error e =>
      rw [opening_of_prepare_eq_error hseparate hsegments,
        opening_of_prepare_eq_error (c := merged) rfl hsegments]
    | ok segments =>
      have hself : Context.bindingParameter ∉ v.map (·.1) := fun hself =>
        hgoes ⟨hself, o, segments, ho, hsegments⟩
      have hopening : separate.opening o s =
          .ok (((Context.ofDict d).withNames v).freeze s, segments) :=
        opening_eq_ok_iff.2 ⟨hseparate, hsegments, _, _, rfl,
          Context.bind_eq_ok_iff.2 ⟨hself, rfl⟩, rfl⟩
      have hopening' : merged.opening o s = .ok ((Context.ofDict m).freeze s, segments) :=
        opening_eq_ok_iff.2 ⟨rfl, hsegments, _, _, rfl, rfl, rfl⟩
      rw [hopening, hopening', Context.freeze_withNames_eq hmerged]
  · rintro ⟨hself, o, segments, ho, hsegments⟩
    exact render_of_refused hseparate ho hsegments rfl (if_pos hself)

/-- A variable hides a name of the dictionary, another one comes last. -/
theorem render_variables_hidden :
    let s := (Store.empty.push (.dict (.ofEntries [(.text ['x'], .int 1), (.text ['y'], .int 2)])))
    let s' := s.push (.dict (.ofEntries
      [(.text ['x'], .int 1), (.text ['y'], .int 3), (.text ['z'], .int 4)]))
    let v : Table := [(['y'], .int 3), (['z'], .int 4)]
    let template := TemplateSource.whole "{x}{y}{z}".toList
    (∀ x ∈ v.map (·.1), String.ofList x ∉ parameters) ∧
      s'.table 1 = (s'.table 0).overlay v ∧
      (⟨.installed, template, .value (.dict 0), v⟩ : Call).render .nothing s' =
        (⟨.installed, template, .value (.dict 1), []⟩ : Call).render .nothing s' := by
  intro s s' v template
  have hnames : ∀ x ∈ v.map (·.1), String.ofList x ∉ parameters := by decide
  have hmerged : s'.table 1 = (s'.table 0).overlay v := by
    simp [s', s, v, Store.table, Store.entries, Store.dictionary, Store.push, Store.empty,
      Dictionary.entries_ofEntries, Value.text?, Table.overlay, Table.put]
  have hgoes : ¬ (Context.bindingParameter ∈ v.map (·.1) ∧ OptionsSource.nothing.Reads template) :=
    fun h => absurd h.1 (by decide)
  exact ⟨hnames, hmerged, (render_variables .installed template .nothing hnames hmerged).1 hgoes⟩

/-- A variable that the same name in the dictionary could stand for stops the call. -/
theorem render_binding_parameter :
    let self := Context.bindingParameter
    let s := (Store.empty.push (.dict .empty)).push (.dict (.ofEntries [(.text self, .int 1)]))
    let template := TemplateSource.whole "{self}".toList
    s.table 1 = (s.table 0).overlay [(self, .int 1)] ∧
      ((⟨.installed, template, .value (.dict 1), []⟩ : Call).render .nothing s).1 =
        .ok [['1']] ∧
      (⟨.installed, template, .value (.dict 0), [(self, .int 1)]⟩ : Call).render .nothing s =
        (.error (.argument self), s) := by
  intro self s template
  refine ⟨rfl, ?_, ?_⟩
  · apply eq_ok_of_match
    decide +kernel
  · have hsegments : Layout.standard.prepare template = .ok [.expression "self".toList 0 6] := by
      apply eq_ok_of_match
      decide +kernel
    exact render_of_refused (o := .standard) rfl rfl hsegments rfl rfl

end Call

end Stencil
