import Mathlib.Data.Set.Card
import Stencil.Context
import Stencil.Proofs.Basic

/-!
# Derived contexts

Contexts are derived from one another: names are bound, other data is put in, all layers are frozen
into one. A view (`Context.View`) says only what each layer lists and finds. Main statement:
`lookup_derive`, a context derived in any number of steps looks names up and lists them as the view
does that went through the same steps, and its other operations agree with that
(`Context.Coherent`). The store may be another one at each step, so scopes that change in between
are covered.

A scope may find names that it does not list, such as a mapping with a default. They can be looked
up, but are no keys, and freezing loses them.
-/

namespace Stencil

/-! ## Tables -/

/-- The last entry of a name in the upper table decides, and the lower table where there is none. -/
theorem Table.lookup_overlay (t top : Table) (x : Text) :
    (t.overlay top).lookup x = (top.reverse.lookup x).or (t.lookup x) := by
  induction top generalizing t with
  | nil => simp [overlay]
  | cons e top ih =>
    obtain ⟨y, v⟩ := e
    have hcons : t.overlay ((y, v) :: top) = (t.put y v).overlay top := rfl
    rw [hcons, ih, Table.lookup_put, List.reverse_cons, List.lookup_append, Option.or_assoc]
    by_cases h : x = y
    · simp [h]
    · simp [h, List.lookup_cons, beq_eq_false_iff_ne.2 h]

theorem Table.lookup_isSome_iff {t : Table} {x : Text} :
    (t.lookup x).isSome = true ↔ x ∈ t.map (·.1) := by
  rw [List.lookup_isSome_iff, List.mem_map]
  constructor
  · rintro ⟨e, he, hx⟩
    exact ⟨e, he, (beq_iff_eq.1 hx).symm⟩
  · rintro ⟨e, he, rfl⟩
    exact ⟨e, he, beq_self_eq_true e.1⟩

theorem Table.lookup_eq_none_iff {t : Table} {x : Text} :
    t.lookup x = none ↔ x ∉ t.map (·.1) := by
  rw [← Option.not_isSome_iff_eq_none, Table.lookup_isSome_iff]

/-- Where names occur once each, it does not matter from which end they are looked up. -/
theorem Table.lookup_reverse {t : Table} (h : (t.map (·.1)).Nodup) (x : Text) :
    t.reverse.lookup x = t.lookup x := by
  induction t with
  | nil => rfl
  | cons e t ih =>
    obtain ⟨y, v⟩ := e
    rw [List.map_cons, List.nodup_cons] at h
    rw [List.reverse_cons, List.lookup_append, ih h.2]
    by_cases hx : x = y
    · subst hx
      simp [Table.lookup_eq_none_iff.2 h.1]
    · simp [List.lookup_cons, beq_eq_false_iff_ne.2 hx]

/-! ## What layers say -/

/-- The value of the first entry whose key is the text `x`. -/
def entryNamed? (x : Text) (entries : List (Value × Value)) : Option Value :=
  (entries.find? fun e => e.1.text? == some x).map (·.2)

/-- What a scope finds under a name. -/
def Layer.gives (s : Store) (x : Text) : Layer → Option Value
  | fixed t => t.lookup x
  | live r => entryNamed? x (s.entries r)
  | mapping m => m.find? s x

/-- Whether a scope lists a name. A dictionary lists what it finds. -/
def Layer.lists (s : Store) (x : Text) : Layer → Bool
  | fixed t => (t.lookup x).isSome
  | live r => (entryNamed? x (s.entries r)).isSome
  | mapping m => (m.keys s).contains x

/-- What a value used as data says about a name. The columns of a frame go by the texts of their
keys, the last one with that text first. -/
def Store.dataSays (s : Store) (x : Text) : Value → Option Value
  | .dict r => entryNamed? x (s.entries r)
  | .frame r => ((s.entries r).reverse.find? fun e => (s.text e.1).toOption == some x).map (·.2)
  | _ => none

/-- A table made of some names and what they stand for. -/
theorem lookup_filterMap_self (f : Text → Option Value) (names : List Text) (x : Text) :
    (names.filterMap fun y => (f y).map (y, ·)).lookup x = if x ∈ names then f x else none := by
  induction names with
  | nil => rfl
  | cons y names ih =>
    cases hf : f y with
    | none =>
      by_cases hx : x = y
      · subst hx
        simp [hf, ih]
      · simp [hf, ih, hx]
    | some v =>
      by_cases hx : x = y
      · simp [hf, hx]
      · simp [hf, ih, hx, List.lookup_cons, beq_eq_false_iff_ne.2 hx]

/-- Looking a name up among entries that are kept under texts, where some are left out. -/
theorem lookup_filterMap_named (key : Value → Option Text) (entries : List (Value × Value))
    (x : Text) :
    (entries.filterMap fun e => (key e.1).map (·, e.2)).lookup x =
      (entries.find? fun e => key e.1 == some x).map (·.2) := by
  induction entries with
  | nil => rfl
  | cons e entries ih =>
    cases hkey : key e.1 with
    | none => simpa [List.filterMap_cons, List.find?_cons, hkey] using ih
    | some y =>
      by_cases hx : x = y
      · simp [hkey, hx]
      · have hne : (y == x) = false := beq_eq_false_iff_ne.2 (Ne.symm hx)
        simpa [List.filterMap_cons, List.find?_cons, hkey, List.lookup_cons, hne,
          beq_eq_false_iff_ne.2 hx] using ih

theorem Store.lookup_table (s : Store) (r : Ref) (x : Text) :
    (s.table r).lookup x = entryNamed? x (s.entries r) :=
  lookup_filterMap_named Value.text? (s.entries r) x

theorem Layer.find?_eq_gives (s : Store) (l : Layer) (x : Text) : l.find? s x = l.gives s x := by
  cases l with
  | live r => exact s.lookup_table r x
  | fixed t | mapping m => rfl

theorem Layer.mem_keys_iff (s : Store) (l : Layer) (x : Text) :
    x ∈ l.keys s ↔ l.lists s x = true := by
  cases l with
  | fixed t => exact Table.lookup_isSome_iff.symm
  | live r =>
    rw [lists, ← s.lookup_table]
    exact Table.lookup_isSome_iff.symm
  | mapping m => exact List.contains_iff_mem.symm

/-- What a scope lists, it finds. -/
theorem Layer.gives_of_lists {s : Store} {l : Layer} {x : Text} (h : l.lists s x = true) :
    (l.gives s x).isSome = true := by
  cases l with
  | fixed t | live r => exact h
  | mapping m => exact m.found (List.contains_iff_mem.1 h)

theorem Mapping.lookup_table (s : Store) (m : Mapping) (x : Text) :
    (m.table s).lookup x = if (m.keys s).contains x then m.find? s x else none := by
  simp only [List.contains_iff_mem]
  exact lookup_filterMap_self (m.find? s) (m.keys s) x

/-- A mapping of the names of a table that has a default under all other names, which it does not
list. -/
def Mapping.withDefault (t : Table) (v : Value) : Mapping where
  keys _ := t.map (·.1)
  find? _ x := some ((t.lookup x).getD v)
  found _ := rfl

/-- Values that have columns: nothing, dictionaries and frames. -/
def Value.HasColumns : Value → Prop
  | .none | .dict _ | .frame _ => True
  | _ => False

/-- A value with columns has them read, and they say what the value says. -/
theorem Store.columns_of_hasColumns (s : Store) {v : Value} (h : v.HasColumns) :
    ∃ t : Table, s.columns v = .ok t ∧ ∀ x, t.lookup x = s.dataSays x v := by
  cases v with
  | none => exact ⟨[], rfl, fun x => rfl⟩
  | dict r => exact ⟨s.table r, rfl, s.lookup_table r⟩
  | frame r =>
    refine ⟨_, rfl, fun x => ?_⟩
    rw [Table.lookup_overlay, ← List.filterMap_reverse]
    have hnamed := lookup_filterMap_named (fun k => (s.text k).toOption) (s.entries r).reverse x
    rw [hnamed]
    simp [Store.dataSays]
  | _ => exact h.elim

/-! ## Derivations -/

/-- One step from a context to another: further variables, other data as it then is, the columns of
a mapping as they then are, or what all names then stand for. -/
inductive Derivation
  | bind (names : Table)
  | withData (s : Store) (data : Value)
  | withMapping (s : Store) (m : Mapping)
  | freeze (s : Store)

/-- A step that can be taken: variables are given once each and have no name that is refused, and
data has columns. -/
def Derivation.Sound : Derivation → Prop
  | bind names => (names.map (·.1)).Nodup ∧ Context.bindingParameter ∉ names.map (·.1)
  | withData _ data => data.HasColumns
  | withMapping _ _ | freeze _ => True

/-- Why a step cannot be taken. -/
inductive DerivationError
  | argument (name : Text)
  | context (e : ContextError)

namespace Context

/-- The context after one step. -/
def step (c : Context) : Derivation → Except DerivationError Context
  | .bind names => (c.bind names).mapError .argument
  | .withData s data => ((s.columns data).map c.withData).mapError .context
  | .withMapping s m => .ok (c.withData (m.table s))
  | .freeze s => .ok (c.freeze s)

/-- The context after several steps. -/
def derive (c : Context) (steps : List Derivation) : Except DerivationError Context :=
  steps.foldlM step c

/-- What a scope lists and finds in a store. -/
structure ScopeView where
  lists : Store → Text → Bool
  gives : Store → Text → Option Value

/-- What the layers of a context say about a name, those of its scopes in a store. -/
structure View where
  names : Text → Option Value
  data : Text → Option Value
  scopes : List ScopeView

namespace View

/-- Names come before data, and data before the scopes in their order. -/
def lookup (m : View) (s : Store) (x : Text) : Option Value :=
  (m.names x).or ((m.data x).or (m.scopes.findSome? fun scope => scope.gives s x))

/-- A name is listed by one of the layers. -/
def lists (m : View) (s : Store) (x : Text) : Bool :=
  (m.names x).isSome || (m.data x).isSome || m.scopes.any fun scope => scope.lists s x

/-- The view after one step. Further names hide those that are there, data is replaced as a whole,
and a frozen view is a single scope that no longer depends on the store and has what was listed. -/
def step (m : View) : Derivation → View
  | .bind names => { m with names := fun x => (names.lookup x).or (m.names x) }
  | .withData s data => { m with data := fun x => s.dataSays x data }
  | .withMapping s columns =>
    { m with data := fun x => if (columns.keys s).contains x then columns.find? s x else none }
  | .freeze s =>
    ⟨fun _ => none, fun _ => none,
      [⟨fun _ x => m.lists s x, fun _ x => if m.lists s x then m.lookup s x else none⟩]⟩

/-- The view after several steps. -/
def derive (m : View) (steps : List Derivation) : View := steps.foldl step m

end View

/-- What the layers of a context say. -/
def view (c : Context) : View :=
  ⟨fun x => c.names.lookup x, fun x => c.data.lookup x,
    c.scopes.map fun l => ⟨fun s x => l.lists s x, fun s x => l.gives s x⟩⟩

theorem lookup_eq_view (c : Context) (s : Store) (x : Text) :
    c.lookup s x = c.view.lookup s x := by
  unfold lookup layers View.lookup view
  simp only [List.findSome?_cons, List.findSome?_map, Function.comp_def, Layer.find?_eq_gives,
    Layer.gives]
  cases c.names.lookup x <;> cases c.data.lookup x <;> rfl

/-! ## Keys -/

theorem mem_keys_iff_layers (c : Context) (s : Store) (x : Text) :
    x ∈ c.keys s ↔ ∃ l ∈ c.layers, x ∈ l.keys s := by
  rw [keys, List.mem_eraseDups, List.mem_flatMap]
  simp only [List.mem_reverse]

theorem mem_keys_iff_view (c : Context) (s : Store) (x : Text) :
    x ∈ c.keys s ↔ c.view.lists s x = true := by
  rw [mem_keys_iff_layers]
  simp [layers, View.lists, view, Layer.mem_keys_iff, Layer.lists, Layer.gives, or_assoc]

/-- What is listed can be looked up. -/
theorem lookup_of_mem_keys {c : Context} {s : Store} {x : Text} (h : x ∈ c.keys s) :
    (c.lookup s x).isSome = true := by
  obtain ⟨l, hl, hx⟩ := (c.mem_keys_iff_layers s x).1 h
  rw [lookup, List.findSome?_isSome_iff]
  refine ⟨l, hl, ?_⟩
  rw [Layer.find?_eq_gives]
  exact Layer.gives_of_lists ((l.mem_keys_iff s x).1 hx)

/-- Where scopes list all that they find, a name that can be looked up is listed. -/
theorem mem_keys_of_lookup {c : Context} {s : Store} {x : Text}
    (hscopes : ∀ l ∈ c.scopes, (l.gives s x).isSome = true → l.lists s x = true)
    (h : (c.lookup s x).isSome = true) : x ∈ c.keys s := by
  rw [lookup, List.findSome?_isSome_iff] at h
  obtain ⟨l, hl, hx⟩ := h
  refine (c.mem_keys_iff_layers s x).2 ⟨l, hl, (l.mem_keys_iff s x).2 ?_⟩
  rw [Layer.find?_eq_gives] at hx
  simp only [layers, List.mem_cons] at hl
  obtain rfl | rfl | hl := hl
  · exact hx
  · exact hx
  · exact hscopes l hl hx

theorem nodup_keys (c : Context) (s : Store) : (c.keys s).Nodup := nodup_eraseDups _

/-- There are as many keys as names that some layer lists. -/
theorem length_keys (c : Context) (s : Store) :
    (c.keys s).length = Set.ncard {x | ∃ l ∈ c.layers, x ∈ l.keys s} := by
  have hset : {x | ∃ l ∈ c.layers, x ∈ l.keys s} = ((c.keys s).toFinset : Set Text) := by
    ext x
    simp [c.mem_keys_iff_layers s x]
  rw [hset, Set.ncard_coe_finset, List.toFinset_card_of_nodup (c.nodup_keys s)]

/-! ## Flat tables -/

theorem lookup_flatten (c : Context) (s : Store) (x : Text) :
    (c.flatten s).lookup x = if x ∈ c.keys s then c.lookup s x else none :=
  lookup_filterMap_self (c.lookup s) (c.keys s) x

theorem names_flatten (c : Context) (s : Store) : (c.flatten s).map (·.1) = c.keys s := by
  have hself : ∀ x ∈ c.keys s, ((c.lookup s x).map (x, ·)).map (·.1) = some x := by
    intro x hx
    obtain ⟨v, hv⟩ := Option.isSome_iff_exists.1 (lookup_of_mem_keys hx)
    simp [hv]
  rw [flatten, List.map_filterMap, List.filterMap_congr hself, List.filterMap_some]

theorem lookup_freeze (c : Context) (s later : Store) (x : Text) :
    (c.freeze s).lookup later x = if x ∈ c.keys s then c.lookup s x else none := by
  have hlayers : (c.freeze s).layers = [.fixed [], .fixed [], .fixed (c.flatten s)] := rfl
  rw [← lookup_flatten, lookup, hlayers]
  simp only [List.findSome?_cons, Layer.find?, List.lookup_nil]
  cases (c.flatten s).lookup x <;> rfl

theorem mem_keys_freeze (c : Context) (s later : Store) (x : Text) :
    x ∈ (c.freeze s).keys later ↔ x ∈ c.keys s := by
  have hlayers : (c.freeze s).layers = [.fixed [], .fixed [], .fixed (c.flatten s)] := rfl
  rw [mem_keys_iff_layers, hlayers]
  simp only [List.mem_cons, List.not_mem_nil, or_false, exists_eq_or_imp, exists_eq_left,
    Layer.keys, List.map_nil, false_or, names_flatten]

theorem visible_eq (c : Context) (s : Store) :
    c.visible s = if builtinsName ∈ c.keys s then c.flatten s
      else c.flatten s ++ [(builtinsName, .builtins)] := by
  have hsome : ((c.flatten s).lookup builtinsName).isSome = true ↔ builtinsName ∈ c.keys s := by
    rw [Table.lookup_isSome_iff, names_flatten]
  rw [visible]
  simp only [hsome]

/-! ## Agreement -/

/-- The ways to ask a context for names agree in a store. What is a key can be looked up, and the
other way round where scopes list all that they find; there are as many keys as names that layers
list. An expression sees the keys with what they stand for, and the built-in names unless a key has
their name; and freezing keeps the keys with what they stand for in a single scope, and nothing
else. -/
structure Coherent (c : Context) (s : Store) : Prop where
  lookup_of_mem_keys : ∀ x ∈ c.keys s, (c.lookup s x).isSome = true
  mem_keys_of_lookup : ∀ x,
    (∀ l ∈ c.scopes, (l.gives s x).isSome = true → l.lists s x = true) →
      (c.lookup s x).isSome = true → x ∈ c.keys s
  nodup_keys : (c.keys s).Nodup
  length_keys : (c.keys s).length = Set.ncard {x | ∃ l ∈ c.layers, x ∈ l.keys s}
  lookup_visible : ∀ x, (c.visible s).lookup x =
    if x ∈ c.keys s then c.lookup s x else if x = builtinsName then some .builtins else none
  names_visible : (c.visible s).map (·.1) =
    c.keys s ++ if builtinsName ∈ c.keys s then [] else [builtinsName]
  lookup_freeze : ∀ later x,
    (c.freeze s).lookup later x = if x ∈ c.keys s then c.lookup s x else none
  mem_keys_freeze : ∀ later x, x ∈ (c.freeze s).keys later ↔ x ∈ c.keys s
  single_scope : (c.freeze s).names = [] ∧ (c.freeze s).data = [] ∧ (c.freeze s).scopes.length = 1

theorem coherent (c : Context) (s : Store) : c.Coherent s where
  lookup_of_mem_keys _ := lookup_of_mem_keys
  mem_keys_of_lookup _ := mem_keys_of_lookup
  nodup_keys := c.nodup_keys s
  length_keys := c.length_keys s
  lookup_visible x := by
    rw [visible_eq]
    split
    · rename_i h
      rw [lookup_flatten]
      by_cases hx : x = builtinsName
      · subst hx
        rw [if_pos h, if_pos h]
      · rw [if_neg hx]
    · rename_i h
      rw [List.lookup_append, lookup_flatten]
      by_cases hx : x = builtinsName
      · subst hx
        simp [h]
      · have hother : List.lookup x [(builtinsName, Value.builtins)] = none := by
          simp [List.lookup_cons, beq_eq_false_iff_ne.2 hx]
        rw [hother, Option.or_none, if_neg hx]
  names_visible := by
    rw [visible_eq]
    split
    · rw [names_flatten, List.append_nil]
    · rw [List.map_append, names_flatten]
      rfl
  lookup_freeze := c.lookup_freeze s
  mem_keys_freeze := c.mem_keys_freeze s
  single_scope := ⟨rfl, rfl, rfl⟩

/-! ## Steps and views -/

/-- A step that can be taken leads to a context whose view is the view after that step. -/
theorem view_step (c : Context) {d : Derivation} (h : d.Sound) :
    ∃ c', c.step d = .ok c' ∧ c'.view = c.view.step d := by
  cases d with
  | bind names =>
    obtain ⟨hnodup, hself⟩ := h
    refine ⟨c.withNames names, ?_, ?_⟩
    · rw [step, bind_eq_ok_iff.2 ⟨hself, rfl⟩]
      rfl
    · -- variables come once each, so it does not matter that the last one of a name counts
      have hnames : (fun x => (Table.overlay c.names names).lookup x) =
          fun x => (names.lookup x).or (c.names.lookup x) := by
        funext x
        rw [Table.lookup_overlay, Table.lookup_reverse hnodup]
      simp only [view, withNames, View.step, hnames]
  | withData s data =>
    obtain ⟨t, ht, hsays⟩ := s.columns_of_hasColumns h
    refine ⟨c.withData t, by simp [step, ht, Except.map, Except.mapError], ?_⟩
    have hdata : (fun x => t.lookup x) = fun x => s.dataSays x data := funext hsays
    simp only [view, withData, View.step, hdata]
  | withMapping s m =>
    refine ⟨_, rfl, ?_⟩
    simp only [view, withData, View.step, m.lookup_table s]
  | freeze s =>
    refine ⟨_, rfl, ?_⟩
    -- the single scope is a table of its own, which has nothing beyond the keys
    have hsays : (fun (_ : Store) x => (c.flatten s).lookup x) =
        fun (_ : Store) x => if c.view.lists s x then c.view.lookup s x else none := by
      funext _ x
      simp only [lookup_flatten, lookup_eq_view, mem_keys_iff_view]
    have hlists : (fun (_ : Store) x => ((c.flatten s).lookup x).isSome) =
        fun (_ : Store) x => c.view.lists s x := by
      funext _ x
      rw [Bool.eq_iff_iff, Table.lookup_isSome_iff, names_flatten, mem_keys_iff_view]
    simp only [view, freeze, View.step, List.map_cons, List.map_nil, Layer.gives, Layer.lists,
      List.lookup_nil]
    exact congrArg₂ (fun lists gives => View.mk _ _ [⟨lists, gives⟩]) hlists hsays

theorem view_derive (c : Context) {steps : List Derivation} (h : ∀ d ∈ steps, d.Sound) :
    ∃ c', c.derive steps = .ok c' ∧ c'.view = c.view.derive steps := by
  induction steps generalizing c with
  | nil => exact ⟨c, rfl, rfl⟩
  | cons d steps ih =>
    obtain ⟨next, hnext, hview⟩ := c.view_step (h d (List.mem_cons_self ..))
    obtain ⟨c', hc', hview'⟩ := ih next fun e he => h e (List.mem_cons_of_mem d he)
    refine ⟨c', ?_, ?_⟩
    · rw [derive, List.foldlM_cons, hnext]
      exact hc'
    · rw [hview', hview]
      rfl

/-- A context derived in any number of steps looks up and lists what the layers say after those
steps, and its keys, its length and the names that an expression sees agree with that. -/
theorem lookup_derive (c : Context) (steps : List Derivation) (h : ∀ d ∈ steps, d.Sound) :
    ∃ c', c.derive steps = .ok c' ∧
      (∀ s x, c'.lookup s x = (c.view.derive steps).lookup s x) ∧
      (∀ s x, x ∈ c'.keys s ↔ (c.view.derive steps).lists s x = true) ∧ ∀ s, c'.Coherent s := by
  obtain ⟨c', hc', hview⟩ := c.view_derive h
  refine ⟨c', hc', fun s x => ?_, fun s x => ?_, c'.coherent⟩
  · rw [lookup_eq_view, hview]
  · rw [mem_keys_iff_view, hview]

/-- A name given along with a context is frozen, then hidden by data, then given again. The scopes
are a dictionary and a mapping that finds nothing under the keys of no table but a default. -/
theorem lookup_derive_frozen_name :
    let s := Store.empty.push
      (.dict (.ofEntries [(.text ['x'], .int 2), (.text ['y'], .int 3)]))
    let c : Context := ⟨[(['x'], .int 1)], [], [.live 0, .mapping (.withDefault [] (.int 0))]⟩
    let steps : List Derivation :=
      [.freeze s, .withData s (.dict 0), .bind [(['y'], .int 4), (['z'], .int 5)]]
    (∀ d ∈ steps, d.Sound) ∧
      ∃ c', c.derive steps = .ok c' ∧
        (∀ s x, c'.lookup s x = (c.view.derive steps).lookup s x) ∧
        (∀ s x, x ∈ c'.keys s ↔ (c.view.derive steps).lists s x = true) ∧
        ∀ s, c'.Coherent s := by
  intro s c steps
  have h : ∀ d ∈ steps, d.Sound := by
    intro d hd
    simp only [steps, List.mem_cons, List.not_mem_nil, or_false] at hd
    obtain rfl | rfl | rfl := hd
    · trivial
    · trivial
    · exact ⟨by decide, by decide⟩
  exact ⟨h, lookup_derive c steps h⟩

/-- A default is found and yet no key, so that freezing loses it; and binding refuses the name that
it takes for itself. -/
theorem lookup_freeze_default :
    let c : Context := ⟨[], [], [.mapping (.withDefault [(['a'], .int 2)] (.int 0))]⟩
    c.lookup .empty ['b'] = some (.int 0) ∧ ['b'] ∉ c.keys .empty ∧
      (c.freeze .empty).lookup .empty ['b'] = none ∧
      c.bind [(bindingParameter, .int 1)] = .error bindingParameter := by
  intro c
  have hkeys : ['b'] ∉ c.keys .empty := by decide
  refine ⟨rfl, hkeys, ?_, rfl⟩
  rw [lookup_freeze, if_neg hkeys]

end Context
end Stencil
