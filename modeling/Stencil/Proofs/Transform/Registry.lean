import Stencil.Proofs.Basic
import Stencil.Transform.Registry

/-!
# What a registry answers

A registry looks for transformers late: its table is empty until a request needs it, and again after
the registry has been cleared. Main statement: `answer_after`, no request can tell when that
happens. After any requests the registry answers by what was registered since it was last cleared
(`registrations`), in front of the built-in transformers.
-/

namespace Stencil

/-! ## Tables of transformers -/

namespace TransformerTable

theorem lookup_isSome_iff {t : TransformerTable} {name : Text} :
    (t.lookup name).isSome = true ↔ name ∈ t.map (·.1) := by
  rw [List.lookup_isSome_iff, List.mem_map]
  constructor
  · rintro ⟨e, he, hname⟩
    exact ⟨e, he, (beq_iff_eq.1 hname).symm⟩
  · rintro ⟨e, he, rfl⟩
    exact ⟨e, he, beq_self_eq_true e.1⟩

/-- An entry that is offered counts where no entry with its name is there. -/
theorem lookup_offer (t : TransformerTable) (e : Text × TransformerClass) (name : Text) :
    (t.offer e).lookup name = (t ++ [e]).lookup name := by
  unfold offer
  split
  · rename_i htaken
    obtain ⟨found, hfound⟩ := Option.isSome_iff_exists.1 htaken
    rw [List.lookup_append]
    by_cases hname : name = e.1
    · rw [hname, hfound, Option.some_or]
    · have hnone : [e].lookup name = none := by
        rw [List.lookup_cons, beq_eq_false_iff_ne.2 hname]
        rfl
      rw [hnone, Option.or_none]
  · rfl

/-- Entries that are offered one after another count in their order, behind those that are there. -/
theorem lookup_foldl_offer (t es : TransformerTable) (name : Text) :
    (es.foldl offer t).lookup name = (t ++ es).lookup name := by
  induction es generalizing t with
  | nil => rw [List.foldl_nil, List.append_nil]
  | cons e es ih =>
    rw [List.foldl_cons, ih, List.lookup_append, lookup_offer, ← List.lookup_append,
      List.append_assoc, List.singleton_append]

theorem mem_names_iff {t : TransformerTable} {name : Text} :
    name ∈ t.names ↔ name ∈ t.map (·.1) := by
  rw [names, (List.mergeSort_perm _ _).mem_iff, List.mem_eraseDups]

/-- The names of a table ascend, so none comes twice. -/
theorem pairwise_names (t : TransformerTable) :
    t.names.Pairwise fun a b => compare a b = .lt := by
  have hsorted : t.names.Pairwise fun a b => (compare a b).isLE = true := by
    refine List.pairwise_mergeSort ?_ ?_ _
    · intro a b c hab hbc
      exact Std.TransCmp.isLE_trans hab hbc
    · intro a b
      have hswap : compare b a = (compare a b).swap := Std.OrientedOrd.eq_swap
      rw [hswap]
      cases compare a b <;> rfl
  have hnodup : t.names.Nodup := (List.mergeSort_perm _ _).nodup_iff.2 (nodup_eraseDups _)
  refine hsorted.imp₂ ?_ hnodup
  intro a b hle hne
  rw [Ordering.isLE_iff_eq_lt_or_eq_eq] at hle
  exact hle.resolve_right fun heq => hne (Std.LawfulEqCmp.eq_of_compare heq)

/-- The names of a table are settled by what can be looked up in it. -/
theorem names_congr {t u : TransformerTable} (h : ∀ name, t.lookup name = u.lookup name) :
    t.names = u.names := by
  have hmem : ∀ name, name ∈ t.names ↔ name ∈ u.names := by
    intro name
    rw [mem_names_iff, mem_names_iff, ← lookup_isSome_iff, ← lookup_isSome_iff, h]
  have hne : ∀ a b : Text, compare a b = .lt → a ≠ b := by
    rintro a b hlt rfl
    have hself : compare a a = .eq := Std.ReflOrd.compare_self
    rw [hself] at hlt
    exact absurd hlt (by decide)
  have ht : t.names.Nodup := t.pairwise_names.imp fun {a b} => hne a b
  have hu : u.names.Nodup := u.pairwise_names.imp fun {a b} => hne a b
  refine ((List.perm_ext_iff_of_nodup ht hu).2 hmem).eq_of_pairwise ?_ t.pairwise_names
    u.pairwise_names
  intro a b _ _ hab hba
  -- no two names come before each other
  have hswap : compare b a = (compare a b).swap := Std.OrientedOrd.eq_swap
  rw [hab, hba] at hswap
  exact absurd hswap (by decide)

end TransformerTable

/-! ## What has been registered -/

namespace Registry

/-- The entries that count after a request, when those of `es` counted before it. -/
def Request.noted (es : TransformerTable) : Request → TransformerTable
  | register name (.transformers c) => (name, c) :: es
  | clear => []
  | _ => es

/-- What has been registered since a registry was last cleared, the latest first. -/
def registrations (requests : List Request) : TransformerTable :=
  requests.foldl Request.noted []

/-- A request that fails registers nothing. -/
theorem noted_of_failed {r : Registry} {q : Request} {p : Problem} (h : (r.answer q).1 = .failed p)
    (es : TransformerTable) : q.noted es = es := by
  cases q with
  | register name candidate =>
    cases candidate with
    | other shown => rfl
    | transformers c => exact absurd h (by simp [answer, register, Answer.ofResult])
  | get s name => rfl
  | list => rfl
  | clear => exact absurd h (by simp [answer])

/-! ## What a registry knows -/

/-- The registry stands for the entries of `es` in front of those that are always found, `basis`:
its table says so if it has looked for transformers, and otherwise there is nothing to say yet. -/
structure Knows (basis es : TransformerTable) (r : Registry) : Prop where
  basis_eq : builtInTransformers ++ r.offered = basis
  early : r.discovered = false → r.known = [] ∧ es = []
  late : r.discovered = true → ∀ name, r.known.lookup name = (es ++ basis).lookup name

variable {basis es : TransformerTable} {r : Registry}

theorem knows_fresh (plugins : List Plugin) :
    Knows (builtInTransformers ++ (fresh plugins).offered) [] (fresh plugins) where
  basis_eq := rfl
  early _ := ⟨rfl, rfl⟩
  late h := absurd h (by simp [fresh])

@[simp] theorem discovered_discover (r : Registry) : r.discover.discovered = true := by
  unfold discover
  split
  · assumption
  · rfl

@[simp] theorem plugins_discover (r : Registry) : r.discover.plugins = r.plugins := by
  unfold discover
  split <;> rfl

/-- Looking for transformers finds what the registry stands for, whether it has done so before or
not. -/
theorem Knows.lookup_discover (h : Knows basis es r) (name : Text) :
    r.discover.known.lookup name = (es ++ basis).lookup name := by
  unfold discover
  split
  · rename_i hlate
    exact h.late hlate name
  · rename_i hearly
    obtain ⟨hknown, hes⟩ := h.early (Bool.not_eq_true _ ▸ hearly)
    rw [TransformerTable.lookup_foldl_offer, h.basis_eq, hknown, hes]

theorem Knows.names_discover (h : Knows basis es r) :
    TransformerTable.names r.discover.known = TransformerTable.names (es ++ basis) :=
  TransformerTable.names_congr h.lookup_discover

theorem Knows.discover (h : Knows basis es r) : Knows basis es r.discover where
  basis_eq := by
    rw [← h.basis_eq, offered, offered, plugins_discover]
  early hearly := absurd hearly (by simp)
  late _ := h.lookup_discover

/-! ## Answers -/

theorem Knows.answer_get (h : Knows basis es r) (s : Store) (name : Value) :
    (r.answer (.get s name)).1 =
      .ofResult .transformer (TransformerTable.make s (es ++ basis) name) := by
  have hlookup : (fun x => r.discover.known.lookup x) = fun x => (es ++ basis).lookup x :=
    funext h.lookup_discover
  simp only [answer, Registry.get, TransformerTable.make, hlookup, h.names_discover]

theorem Knows.answer_list (h : Knows basis es r) :
    (r.answer .list).1 = .names (TransformerTable.names (es ++ basis)) :=
  congrArg Answer.names h.names_discover

theorem answer_register_transformers (r : Registry) (name : Text) (c : TransformerClass) :
    (r.answer (.register name (.transformers c))).1 = .done := rfl

/-- What is no class of transformers is refused, and the registry has no part in it. -/
theorem exists_answer_register_other (name : Text) (shown : Except Fault Text) :
    ∃ p, ∀ r : Registry, r.answer (.register name (.other shown)) = (.failed p, r) := by
  cases shown with
  | ok shown => exact ⟨.notTransformer shown, fun _ => rfl⟩
  | error f => exact ⟨.fault f, fun _ => rfl⟩

/-- What a registry stands for settles its answers. -/
theorem Knows.answer_eq {r' : Registry} (h : Knows basis es r) (h' : Knows basis es r')
    (q : Request) : (r.answer q).1 = (r'.answer q).1 := by
  cases q with
  | register name candidate =>
    cases candidate with
    | other shown =>
      obtain ⟨p, hp⟩ := exists_answer_register_other name shown
      rw [hp, hp]
    | transformers c => rfl
  | get s name => rw [h.answer_get, h'.answer_get]
  | list => rw [h.answer_list, h'.answer_list]
  | clear => rfl

/-- After a request a registry stands for what it stood for before, as far as the request has not
changed that. -/
theorem Knows.answer (h : Knows basis es r) (q : Request) :
    Knows basis (q.noted es) (r.answer q).2 := by
  cases q with
  | register name candidate =>
    cases candidate with
    | other shown =>
      obtain ⟨p, hp⟩ := exists_answer_register_other name shown
      rw [hp]
      exact h
    | transformers c =>
      refine ⟨h.discover.basis_eq, fun hearly => absurd hearly ?_, fun _ other => ?_⟩
      · simp [Registry.answer, register]
      · change List.lookup other ((name, c) :: r.discover.known) = _
        have hcons : Request.noted es (.register name (.transformers c)) ++ basis =
            (name, c) :: (es ++ basis) := rfl
        rw [hcons, List.lookup_cons, List.lookup_cons, h.lookup_discover]
  | get s name =>
    have hstate : (r.answer (.get s name)).2 = r.discover := rfl
    rw [hstate]
    exact h.discover
  | list => exact h.discover
  | clear =>
    refine ⟨h.basis_eq, fun _ => ⟨rfl, rfl⟩, fun hlate => absurd hlate ?_⟩
    simp [Registry.answer, clear]

theorem Knows.after (h : Knows basis es r) (requests : List Request) :
    Knows basis (requests.foldl Request.noted es) (r.after requests) := by
  induction requests generalizing r es with
  | nil => exact h
  | cons q requests ih => exact ih (h.answer q)

/-- A request that fails can be left out: later answers are the same without it. -/
theorem answer_without_failed {past later : List Request} {q q' : Request} {p : Problem}
    (h : Knows basis es r) (hfail : ((r.after past).answer q).1 = .failed p) :
    ((r.after (past ++ q :: later)).answer q').1 = ((r.after (past ++ later)).answer q').1 := by
  have hwith := h.after (past ++ q :: later)
  have hwithout := h.after (past ++ later)
  rw [List.foldl_append, List.foldl_cons, noted_of_failed hfail, ← List.foldl_append] at hwith
  exact hwith.answer_eq hwithout q'

theorem checkKey_of_text? {name : Value} {x : Text} (h : name.text? = some x) :
    Store.checkKey name = .ok () := by
  cases name <;> first | rfl | cases h

/-- A registry answers by a table. Of a name with an entry it makes what the class of the first such
entry makes, be that a transformer or an error. Names without an entry are refused with the names
that there are, which takes a text of theirs, and values that are not fit for keys are refused as
such. The names that are listed ascend, which also says that they are distinct. Classes of
transformers are registered, and anything else is refused. -/
structure AnswersBy (known : TransformerTable) (r : Registry) : Prop where
  made : ∀ s (name : Value) x c, name.text? = some x → known.lookup x = some c →
    (r.answer (.get s name)).1 = .ofResult .transformer ((c.make s).mapError .fault)
  unknown : ∀ s (name : Value) names, Store.checkKey name = .ok () →
    (∀ x, name.text? = some x → known.lookup x = none) → (r.answer .list).1 = .names names →
    (r.answer (.get s name)).1 = .failed (TransformerTable.refusal s names name)
  unfit : ∀ s (name : Value) f, Store.checkKey name = .error f →
    (r.answer (.get s name)).1 = .failed (.fault f)
  listed : ∃ names, (r.answer .list).1 = .names names ∧
    names.Pairwise (fun a b => compare a b = .lt) ∧ ∀ name, name ∈ names ↔ name ∈ known.map (·.1)
  registers : ∀ name c, (r.answer (.register name (.transformers c))).1 = .done
  refuses : ∀ name shown, ∃ p, (r.answer (.register name (.other shown))).1 = .failed p

theorem Knows.answersBy (h : Knows basis es r) : AnswersBy (es ++ basis) r where
  made s name x c hname hentry := by
    rw [h.answer_get, TransformerTable.make, checkKey_of_text? hname, hname, Option.bind_some,
      hentry]
    rfl
  unknown s name names hkey hnone hnames := by
    have hentry : (name.text?.bind fun x => (es ++ basis).lookup x) = none :=
      Option.bind_eq_none_iff.2 hnone
    have hlisted := Answer.names.inj (h.answer_list.symm.trans hnames)
    rw [h.answer_get, TransformerTable.make, hkey, hentry, hlisted]
    rfl
  unfit s name f hkey := by
    rw [h.answer_get, TransformerTable.make, hkey]
    rfl
  listed := ⟨_, h.answer_list, TransformerTable.pairwise_names _,
    fun _ => TransformerTable.mem_names_iff⟩
  registers := answer_register_transformers r
  refuses name shown :=
    (exists_answer_register_other name shown).imp fun _ hp => congrArg Prod.fst (hp r)

/-- Without plugins, a registry that has been asked anything answers by what was registered since it
was last cleared, the latest first, and then by the built-in transformers. What failed plays no part
in later answers. -/
theorem answer_after (past : List Request) :
    AnswersBy (registrations past ++ builtInTransformers) ((fresh []).after past) ∧
      ∀ (q : Request) (p : Problem), (((fresh []).after past).answer q).1 = .failed p →
        ∀ (later : List Request) (q' : Request),
          (((fresh []).after (past ++ q :: later)).answer q').1 =
            (((fresh []).after (past ++ later)).answer q').1 := by
  have hfresh : Knows builtInTransformers [] (fresh []) := by
    have hknows := knows_fresh []
    rwa [show (fresh []).offered = [] from rfl, List.append_nil] at hknows
  exact ⟨(hfresh.after past).answersBy, fun q p hfail later q' =>
    answer_without_failed hfresh hfail⟩

/-- A built-in name that is taken over, before the registry has looked for anything, and a name that
is unknown until it is registered. -/
theorem answer_after_taken_over :
    let own : Transformer := .own "own".toList fun t _ => return .text t
    let past : List Request := [.register "shell".toList (.transformers (.of own))]
    let unknown : Request := .get .empty (.text "own".toList)
    let later : List Request := [.register "own".toList (.transformers (.of own))]
    (((fresh []).after past).answer (.get .empty (.text "shell".toList))).1 = .transformer own ∧
      (∃ p, (((fresh []).after past).answer unknown).1 = .failed p) ∧
      (((fresh []).after (past ++ unknown :: later)).answer unknown).1 =
        (((fresh []).after (past ++ later)).answer unknown).1 := by
  intro own past unknown later
  obtain ⟨hby, hfailed⟩ := answer_after past
  have htaken : (registrations past ++ builtInTransformers).lookup "shell".toList =
      some (.of own) := rfl
  have hnone : ∀ x, (Value.text "own".toList).text? = some x →
      (registrations past ++ builtInTransformers).lookup x = none := by
    rintro x ⟨⟩
    rfl
  obtain ⟨names, hnames, -, -⟩ := hby.listed
  have hunknown := hby.unknown .empty (.text "own".toList) names rfl hnone hnames
  exact ⟨hby.made .empty _ _ _ rfl htaken, ⟨_, hunknown⟩, hfailed unknown _ hunknown later unknown⟩

/-- A class that lacks methods is registered, but no transformer is made of it; and a list is no
name that could be unknown. -/
theorem answer_get_of_abstract :
    let fault : Fault := .type "Can't instantiate abstract class Transformer"
    let lacking : TransformerClass := ⟨fun _ => .error fault⟩
    let register : Request := .register "t".toList (.transformers lacking)
    ((fresh []).answer register).1 = .done ∧
      (((fresh []).after [register]).answer (.get .empty (.text "t".toList))).1 =
        .failed (.fault fault) ∧
      ((fresh []).answer (.get (Store.empty.push (.list [])) (.list 0))).1 =
        .failed (.fault (.type "unhashable type: 'list'")) :=
  ⟨rfl, rfl, rfl⟩

end Registry
end Stencil
