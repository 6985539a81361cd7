import Stencil.Proofs.Moved.Operation
import Stencil.Evaluation.Scope

/-!
# Names in moved scopes

A name stands in a moved scope for the moved value, and is given one alike. What is built in refers
to no place, so it stands for itself.
-/

namespace Stencil

open Run (Follows)

variable {g : Gap}

theorem Run.Follows.newDict {ε : Type} (entries : List (Value × Value)) :
    Follows g g.ref (Run.newDict entries : Run ε Ref)
      (Run.newDict (entries.map (movedEntry g))) := by
  have h := Follows.alloc (g := g) (ε := ε) (.dict (.ofEntries entries))
  rwa [Cell.moved, ← Dictionary.ofEntries_moved] at h

theorem newDict_named_moved {ε : Type} (named : List (Text × Value)) :
    Follows g g.ref (Run.newDict (named.map fun (x, v) => (.text x, v)) : Run ε Ref)
      (Run.newDict ((named.map (movedNamed g)).map fun (x, v) => (.text x, v))) := by
  have h := Follows.newDict (g := g) (ε := ε) (named.map fun (x, v) => (.text x, v))
  rwa [List.map_map] at h ⊢

theorem lookup_movedNames (names : List (Text × Ref)) (x : Text) :
    (movedNames g names).lookup x = (names.lookup x).map g.ref := by
  induction names with
  | nil => rfl
  | cons p names ih =>
    have hcons : movedNames g (p :: names) = (p.1, g.ref p.2) :: movedNames g names := rfl
    rw [hcons, List.lookup_cons, List.lookup_cons, ih]
    split <;> rfl

theorem lookup_movedNamed (named : List (Text × Value)) (x : Text) :
    (named.map (movedNamed g)).lookup x = (named.lookup x).map (Value.moved g) := by
  induction named with
  | nil => rfl
  | cons p named ih =>
    rw [List.map_cons, movedNamed, List.lookup_cons, List.lookup_cons, ih]
    split <;> rfl

theorem lookup_getD_movedNamed {d : Value} (named : List (Text × Value)) (x : Text)
    (h : d.moved g = d) :
    ((named.map (movedNamed g)).lookup x).getD d = ((named.lookup x).getD d).moved g := by
  rw [lookup_movedNamed]
  rcases named.lookup x with _ | v
  · exact h.symm
  · rfl

/-- An argument by its place, or else by its name, or a value in its place that is not moved. -/
theorem argument_moved {d : Value} (a : Arguments) (i : Nat) (x : Text) (hd : d.moved g = d) :
    ((a.moved g).positional[i]? <|> (a.moved g).named.lookup x).getD d =
      ((a.positional[i]? <|> a.named.lookup x).getD d).moved g := by
  simp only [Arguments.moved, List.getElem?_map]
  cases a.positional[i]? with
  | some v => rfl
  | none => exact lookup_getD_movedNamed a.named x hd

/-! ## Built-in names -/

theorem moved_of_lookup {table : List (String × Value)}
    (h : ∀ p ∈ table, p.2.moved g = p.2) {name : String} {v : Value}
    (hv : table.lookup name = some v) : v.moved g = v := by
  obtain ⟨before, after, rfl, -⟩ := List.lookup_eq_some_iff.1 hv
  exact h (name, v) (by simp)

theorem builtinValue?_moved {name : String} {v : Value} (h : builtinValue? name = some v) :
    v.moved g = v := by
  have hprincipal : ∀ p ∈ principalNames, p.2.moved g = p.2 := by
    simp [principalNames, Value.moved, Function.moved]
  have hother : ∀ p ∈ otherValues, p.2.moved g = p.2 := by
    simp [otherValues, Value.moved, Function.moved]
  rw [builtinValue?] at h
  rcases hp : principalNames.lookup name with _ | w
  · rcases ho : otherValues.lookup name with _ | w
    · rw [hp, ho] at h
      change (if otherFunctions.contains name then some (.function (.other name))
        else if otherTypes.contains name || faultTypes.contains name then
          some (.type (.other name)) else none) = some v at h
      split at h
      · obtain rfl := Option.some.inj h
        rfl
      · split at h
        · obtain rfl := Option.some.inj h
          rfl
        · exact absurd h (by simp)
    · rw [hp, ho] at h
      obtain rfl := Option.some.inj h
      exact moved_of_lookup hother ho
  · rw [hp] at h
    obtain rfl := Option.some.inj h
    exact moved_of_lookup hprincipal hp

/-- A name among others that are provided in place of the built-in ones. -/
theorem lookupProvided_moved (provided : Value) (x : Text) :
    Follows g (Value.moved g)
      (tryCatch (subscript provided (.text x)) fun
        | .key _ => throw (.unbound x)
        | fault => throw fault)
      (tryCatch (subscript (provided.moved g) (.text x)) fun
        | .key _ => throw (.unbound x)
        | fault => throw fault) := by
  refine (subscript_moved provided (.text x)).tryCatch fun fault => ?_
  cases fault <;> exact .throw _

theorem lookupBuiltin_moved (provided : Value) (x : Text) :
    Follows g (Value.moved g) (lookupBuiltin provided x)
      (lookupBuiltin (provided.moved g) x) := by
  have hother := lookupProvided_moved (g := g) provided x
  cases provided with
  | builtins =>
    simp only [Value.moved, lookupBuiltin]
    rcases h : builtinValue? (String.ofList x) with _ | v
    · exact .throw _
    · exact .pure (builtinValue?_moved h).symm
  | _ => exact hother

/-! ## Names of a scope -/

theorem variable_moved {s t : Store} (h : s.Moved g t) (r : Ref) (e : Fault) :
    Follows g (Value.moved g)
      (match s.cells[r]? with
        | some (.variable (some v)) => return v
        | _ => throw e : Run Fault Value)
      (match t.cells[g.ref r]? with
        | some (.variable (some v)) => return v
        | _ => throw e) := by
  rw [h.cell]
  rcases s.cells[r]? with _ | (_ | _ | _ | _ | (_ | v))
  pick_goal 7
  · exact .pure rfl
  all_goals exact .throw _

theorem lookupName_moved (scope : Scope) (x : Text) :
    Follows g (Value.moved g) (lookupName scope x) (lookupName (scope.moved g) x) := by
  refine .get_bind fun s t h => ?_
  simp only [Scope.moved, lookup_movedNames]
  rcases scope.own.lookup x with _ | r
  · rcases scope.outer.lookup x with _ | r
    · simp only [Option.map_none, h.entries, h.lookup_text]
      refine (Follows.ofExcept rfl).bind fun found => ?_
      rcases found with _ | v
      · refine (Follows.ofExcept rfl).bind fun provided => ?_
        have hbuiltin := lookupBuiltin_moved (g := g) (provided.getD .builtins) x
        cases provided <;> exact hbuiltin
      · exact .pure rfl
    · exact variable_moved h r _
  · exact variable_moved h r _

theorem assignName_moved (scope : Scope) (x : Text) (v : Value) :
    Follows g id (assignName scope x v) (assignName (scope.moved g) x (v.moved g)) := by
  have hnames : movedNames g scope.own ++ movedNames g scope.outer =
      movedNames g (scope.own ++ scope.outer) := (List.map_append ..).symm
  simp only [assignName, Scope.moved, hnames, lookup_movedNames]
  rcases (scope.own ++ scope.outer).lookup x with _ | r
  · exact putEntries_moved scope.names [(.text x, v)]
  · exact .replace r (.variable (some v))

theorem Scope.enter_moved (scope : Scope) (names : List Text) :
    Follows g (Scope.moved g) (scope.enter names) ((scope.moved g).enter names) := by
  have hfresh : Follows g (movedNames g)
      (names.eraseDups.mapM fun x => do return (x, ← Run.alloc (.variable none)) :
        Run Fault (List (Text × Ref)))
      (names.eraseDups.mapM fun x => do return (x, ← Run.alloc (.variable none))) := by
    have h (x : Text) : Follows g (fun (p : Text × Ref) => (p.1, g.ref p.2))
        (do return (x, ← Run.alloc (.variable none)) : Run Fault (Text × Ref))
        (do return (x, ← Run.alloc (.variable none))) :=
      (Follows.alloc (.variable none)).bind fun r => .pure rfl
    exact Follows.mapM_over h names.eraseDups
  refine hfresh.bind fun fresh => .pure ?_
  simp [Scope.moved, movedNames]

/-! ## Parameters -/

theorem bindParameters_moved (parameters : List (Expr.ParameterKind × Text × Option Value))
    (a : Arguments) :
    Follows g (List.map (movedNamed g)) (bindParameters parameters a)
      (bindParameters (Value.movedDefaults g parameters) (a.moved g)) := by
  induction parameters generalizing a with
  | nil =>
    obtain ⟨_ | ⟨v, positional⟩, _ | ⟨p, named⟩⟩ := a
    · exact .pure rfl
    · exact .throw _
    · exact .throw _
    · exact .throw _
  | cons p parameters ih =>
    obtain ⟨kind, x, default⟩ := p
    have hlookup : (a.moved g).named.lookup x = (a.named.lookup x).map (Value.moved g) :=
      lookup_movedNamed a.named x
    -- once a parameter has its value, the others are bound to the arguments that are left
    have hbound {v w : Value} {a b : Arguments} (hv : w = v.moved g) (hb : b = a.moved g) :
        Follows g (List.map (movedNamed g))
          (do return (x, v) :: (← bindParameters parameters a))
          (do return (x, w) :: (← bindParameters (Value.movedDefaults g parameters) b)) := by
      subst hv hb
      exact (ih a).bind fun bound => .pure rfl
    have hnamed (v : Value) : Follows g (List.map (movedNamed g))
        (do return (x, v) ::
          (← bindParameters parameters { a with named := a.named.filter (·.1 ≠ x) }))
        (do return (x, v.moved g) :: (← bindParameters (Value.movedDefaults g parameters)
          { a.moved g with named := (a.moved g).named.filter (·.1 ≠ x) })) := by
      refine hbound rfl ?_
      simp only [Arguments.moved, List.filter_map]
      rfl
    rw [Value.movedDefaults_eq] at hbound hnamed ⊢
    cases kind with
    | rest => exact hbound (by simp [Value.moved, Arguments.moved]) rfl
    | restNamed =>
      refine (newDict_named_moved a.named).bind fun d => hbound rfl rfl
    | plain =>
      obtain ⟨positional, named⟩ := a
      simp only [List.map_cons, bindParameters, hlookup]
      rcases positional with _ | ⟨v, positional⟩
      · rcases named.lookup x with _ | v
        · rcases default with _ | v
          · exact .throw _
          · exact hbound rfl rfl
        · exact hnamed v
      -- an argument may not be given by its place and by its name
      · rcases named.lookup x with _ | w
        · exact hbound rfl rfl
        · exact .throw _
    | namedOnly =>
      simp only [List.map_cons, bindParameters, hlookup]
      rcases a.named.lookup x with _ | v
      · rcases default with _ | v
        · exact .throw _
        · exact hbound rfl rfl
      · exact hnamed v

end Stencil
