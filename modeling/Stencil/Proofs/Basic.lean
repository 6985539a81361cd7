import Mathlib.Data.List.Nodup
import Stencil.Value.Store

/-!
# Lists and runs

What the proofs about single parts of the library share: facts about lists of results, and what a
computation does in a given store. A run of two parts is a run of the first and then one of the
second in the store that the first leaves (`Run.bind_of_ok`, `Run.bind_eq_ok_iff`), unless the first
fails (`Run.bind_of_error`).
-/

namespace Stencil

theorem nodup_eraseDups {α : Type} [BEq α] [LawfulBEq α] (l : List α) : l.eraseDups.Nodup := by
  cases l with
  | nil => simp
  | cons x l =>
    rw [List.eraseDups_cons, List.nodup_cons, List.mem_eraseDups]
    exact ⟨by simp, nodup_eraseDups _⟩
termination_by l.length
decreasing_by
  have := List.length_filter_le (fun y => !y == x) l
  rw [List.length_cons]
  omega

theorem mem_getLast?_cons_iff {α : Type} {a b : α} {l : List α} :
    b ∈ (a :: l).getLast? ↔ l = [] ∧ b = a ∨ b ∈ l.getLast? := by
  cases l with
  | nil => simp [eq_comm]
  | cons c l => simp [List.getLast?_cons_cons]

/-! ## Parts of a run -/

namespace Run

variable {ε ε' α β : Type}

@[simp] theorem pure_apply (a : α) (s : Store) : (pure a : Run ε α) s = (.ok a, s) := rfl

@[simp] theorem mapError_apply (f : ε → ε') (c : Run ε α) (s : Store) :
    mapError f c s = ((c s).1.mapError f, (c s).2) := rfl

theorem ok_inj {a b : α} {s s' : Store}
    (h : ((.ok a, s) : Except ε α × Store) = (.ok b, s')) : a = b ∧ s = s' := by
  simpa using h

theorem ok_ne_error {a : α} {e : ε} {s s' : Store} :
    ((.ok a, s) : Except ε α × Store) ≠ (.error e, s') := by
  simp

theorem bind_apply (c : Run ε α) (f : α → Run ε β) (s : Store) :
    (c >>= f) s = match c s with
      | (.ok a, s') => f a s'
      | (.error e, s') => (.error e, s') := by
  change (ExceptT.bind c f) s = _
  unfold ExceptT.bind ExceptT.mk ExceptT.bindCont
  change (StateT.bind c _) s = _
  unfold StateT.bind
  rcases c s with ⟨_ | _, _⟩ <;> rfl

theorem tryCatch_apply (c : Run ε α) (k : ε → Run ε α) (s : Store) :
    (tryCatch c k : Run ε α) s = match c s with
      | (.ok a, s') => (.ok a, s')
      | (.error e, s') => k e s' := by
  change (ExceptT.tryCatch c k) s = _
  unfold ExceptT.tryCatch ExceptT.mk
  change (StateT.bind c _) s = _
  unfold StateT.bind
  rcases c s with ⟨_ | _, _⟩ <;> rfl

theorem bind_of_ok {c : Run ε α} {f : α → Run ε β} {s s' : Store} {a : α}
    (h : c s = (.ok a, s')) : (c >>= f) s = f a s' := by
  rw [bind_apply, h]

theorem bind_of_error {c : Run ε α} {f : α → Run ε β} {s s' : Store} {e : ε}
    (h : c s = (.error e, s')) : (c >>= f) s = (.error e, s') := by
  rw [bind_apply, h]

/-- A run goes on from what its first part gives. -/
theorem bind_of_eq {c : Run ε α} {r : Except ε α} {s s' : Store} (f : α → Run ε β)
    (h : c s = (r, s')) : (c >>= f) s = (ofExcept r >>= f) s' := by
  cases r with
  | error e => exact bind_of_error h
  | ok a => exact bind_of_ok h

/-- What a computation gives, made into something else. -/
theorem bind_pure_of_eq {c : Run ε α} {r : Except ε α} {s s' : Store} (f : α → β)
    (h : c s = (r, s')) : (c >>= fun a => pure (f a)) s = (r.map f, s') := by
  rw [bind_of_eq _ h]
  cases r <;> rfl

/-- A run of two parts that succeeds is a run of both. -/
theorem bind_eq_ok_iff {c : Run ε α} {f : α → Run ε β} {s s'' : Store} {b : β} :
    (c >>= f) s = (.ok b, s'') ↔ ∃ a s', c s = (.ok a, s') ∧ f a s' = (.ok b, s'') := by
  rw [bind_apply]
  rcases h : c s with ⟨_ | a, s'⟩
  · constructor
    · rintro ⟨⟩
    · rintro ⟨_, _, ⟨⟩, _⟩
  · constructor
    · exact fun hf => ⟨a, s', rfl, hf⟩
    · rintro ⟨_, _, ⟨⟩, hf⟩
      exact hf

/-- A run of two parts fails in the first, or in the second after the first. -/
theorem bind_eq_error_iff {c : Run ε α} {f : α → Run ε β} {e : ε} {s s' : Store} :
    (c >>= f) s = (.error e, s') ↔
      c s = (.error e, s') ∨ ∃ a s₁, c s = (.ok a, s₁) ∧ f a s₁ = (.error e, s') := by
  rcases hc : c s with ⟨e' | a, s₁⟩
  · rw [bind_of_error hc]
    constructor
    · rintro ⟨⟩
      exact .inl rfl
    · rintro (⟨⟨⟩⟩ | ⟨a, s₂, ⟨⟩, -⟩)
      rfl
  · rw [bind_of_ok hc]
    constructor
    · exact fun h => .inr ⟨a, s₁, rfl, h⟩
    · rintro (⟨⟨⟩⟩ | ⟨a, s₂, ⟨⟩, h⟩)
      exact h

theorem ofExcept_ok_bind (a : α) (f : α → Run ε β) (s : Store) :
    (ofExcept (.ok a) >>= f) s = f a s :=
  bind_of_ok rfl

theorem ofExcept_bind_eq_ok_iff {r : Except ε α} {f : α → Run ε β} {s s' : Store} {b : β} :
    (ofExcept r >>= f) s = (.ok b, s') ↔ ∃ a, r = .ok a ∧ f a s = (.ok b, s') := by
  rw [bind_eq_ok_iff]
  constructor
  · rintro ⟨a, s₁, hr, h⟩
    obtain ⟨rfl, rfl⟩ : r = .ok a ∧ s = s₁ := Prod.mk.injEq .. ▸ hr
    exact ⟨a, rfl, h⟩
  · rintro ⟨a, rfl, h⟩
    exact ⟨a, s, rfl, h⟩

/-- What a run does after a result matters only for the value of that result. -/
theorem ofExcept_bind_congr {r : Except ε α} {f g : α → Run ε β} (h : ∀ a, r = .ok a → f a = g a) :
    (ofExcept r >>= f) = (ofExcept r >>= g) := by
  cases r with
  | error e => rfl
  | ok a =>
    funext s
    rw [ofExcept_ok_bind, ofExcept_ok_bind, h a rfl]

theorem mapM_congr {f g : α → Run ε β} {l : List α} (h : ∀ a ∈ l, f a = g a) :
    l.mapM f = l.mapM g := by
  induction l with
  | nil => rfl
  | cons a l ih =>
    rw [List.mapM_cons, List.mapM_cons, h a (List.mem_cons_self ..),
      ih fun b hb => h b (List.mem_cons_of_mem a hb)]

/-- Where a computation only looks at the store, going over a list does as well. -/
theorem mapM_of_reads {f : α → Run ε β} {g : α → Except ε β} {s : Store}
    (h : ∀ a, f a s = (g a, s)) (l : List α) : (l.mapM f) s = (l.mapM g, s) := by
  induction l with
  | nil => rfl
  | cons a l ih =>
    rw [List.mapM_cons, List.mapM_cons, bind_apply, h]
    cases g a with
    | error e => rfl
    | ok b =>
      have hrest : (l.mapM f >>= fun bs => pure (b :: bs)) s =
          ((l.mapM g).map (b :: ·), s) := by
        rw [bind_apply, ih]
        cases l.mapM g <;> rfl
      exact hrest.trans (by cases l.mapM g <;> rfl)

/-- Going over a list fails where it comes to an element that fails. -/
theorem mapM_eq_error_iff {f : α → Run ε β} {l : List α} {e : ε} {s s' : Store} :
    (l.mapM f) s = (.error e, s') ↔
      ∃ done a rest bs s₁, l = done ++ a :: rest ∧ (done.mapM f) s = (.ok bs, s₁) ∧
        f a s₁ = (.error e, s') := by
  induction l generalizing s with
  | nil =>
    constructor
    · rintro ⟨⟩
    · rintro ⟨done, a, rest, -, -, hl, -⟩
      exact absurd hl (by simp)
  | cons a l ih =>
    rw [List.mapM_cons, bind_eq_error_iff]
    constructor
    · rintro (ha | ⟨b, s₁, ha, hl⟩)
      · exact ⟨[], a, l, [], s, rfl, rfl, ha⟩
      · obtain hl | ⟨bs, s₂, -, ⟨⟩⟩ := bind_eq_error_iff.1 hl
        obtain ⟨done, a', rest, bs, s₂, rfl, hdone, ha'⟩ := ih.1 hl
        refine ⟨a :: done, a', rest, b :: bs, s₂, rfl, ?_, ha'⟩
        rw [List.mapM_cons, bind_of_ok ha, bind_of_ok hdone, pure_apply]
    · rintro ⟨done, a', rest, bs, s₂, hl, hdone, ha'⟩
      cases done with
      | nil =>
        obtain ⟨rfl, -⟩ := List.cons.inj hl
        obtain ⟨-, rfl⟩ := ok_inj hdone
        exact .inl ha'
      | cons x done =>
        obtain ⟨rfl, rfl⟩ := List.cons.inj hl
        rw [List.mapM_cons] at hdone
        obtain ⟨b, s₁, ha, hmore⟩ := bind_eq_ok_iff.1 hdone
        obtain ⟨bs', s₃, hrest, hpure⟩ := bind_eq_ok_iff.1 hmore
        obtain ⟨-, rfl⟩ := ok_inj hpure
        exact .inr ⟨b, s₁, ha,
          bind_eq_error_iff.2 (.inl (ih.2 ⟨done, a', rest, bs', s₃, rfl, hrest, ha'⟩))⟩

end Run

/-! ## Results -/

theorem mapError_eq_ok_iff {ε ε' α : Type} {f : ε → ε'} {r : Except ε α} {a : α} :
    r.mapError f = .ok a ↔ r = .ok a := by
  cases r <;> simp [Except.mapError]

/-- The result of a closed computation can be found by evaluation. -/
theorem eq_ok_of_match {ε α : Type} [DecidableEq α] {r : Except ε α} {a : α}
    (h : (match r with | .ok b => decide (b = a) | .error _ => false) = true) : r = .ok a := by
  cases r with
  | error e => exact absurd h (by simp)
  | ok b => exact congrArg Except.ok (of_decide_eq_true h)

/-! ## Lists of results -/

theorem map_eq_self_iff {α : Type} {f : α → α} {l : List α} : l.map f = l ↔ ∀ a ∈ l, f a = a := by
  have h := List.map_inj_left (l := l) (f := f) (g := id)
  rwa [List.map_id] at h

theorem allM_map {m : Type → Type} [Monad m] {α β : Type} {f : α → β} {p : α → m Bool}
    {q : β → m Bool} (h : ∀ a, q (f a) = p a) (l : List α) : (l.map f).allM q = l.allM p := by
  induction l with
  | nil => rfl
  | cons a l ih => rw [List.map_cons, List.allM, List.allM, h, ih]

section

variable {ε α β : Type}

/-- Going over a list succeeds with the results for its elements. -/
theorem mapM_eq_ok_iff {f : α → Except ε β} {l : List α} {bs : List β} :
    l.mapM f = .ok bs ↔ List.Forall₂ (fun a b => f a = .ok b) l bs := by
  induction l generalizing bs with
  | nil =>
    simp [pure, Except.pure, eq_comm]
  | cons a l ih =>
    rw [List.mapM_cons]
    cases hf : f a with
    | error e => simp [bind, Except.bind, List.forall₂_cons_left_iff, hf]
    | ok b =>
      cases hl : l.mapM f with
      | error e =>
        have hnone : ∀ bs, ¬ List.Forall₂ (fun a b => f a = .ok b) l bs := by
          intro bs hbs
          rw [← ih, hl] at hbs
          exact absurd hbs (by simp)
        simp [bind, Except.bind, List.forall₂_cons_left_iff, hnone]
      | ok rest =>
        have hrest : ∀ bs, List.Forall₂ (fun a b => f a = .ok b) l bs ↔ rest = bs := by
          intro bs
          rw [← ih, hl, Except.ok.injEq]
        simp [bind, Except.bind, pure, Except.pure, List.forall₂_cons_left_iff, hf, hrest, eq_comm]

theorem exists_right_of_mem {R : α → β → Prop} {l : List α} {bs : List β}
    (h : List.Forall₂ R l bs) {a : α} (ha : a ∈ l) : ∃ b ∈ bs, R a b := by
  induction h with
  | nil => exact absurd ha (by simp)
  | @cons x y l bs hxy _ ih =>
    rcases List.mem_cons.1 ha with rfl | ha
    · exact ⟨y, List.mem_cons_self .., hxy⟩
    · obtain ⟨b, hb, hab⟩ := ih ha
      exact ⟨b, List.mem_cons_of_mem y hb, hab⟩

/-- Going over a list fails as it does for one of its elements. -/
theorem exists_of_mapM_eq_error {f : α → Except ε β} {l : List α} {e : ε}
    (h : l.mapM f = .error e) : ∃ a ∈ l, f a = .error e := by
  induction l with
  | nil => exact absurd h (by simp [pure, Except.pure])
  | cons a l ih =>
    rw [List.mapM_cons] at h
    cases hf : f a with
    | error e' =>
      rw [hf] at h
      obtain rfl : e' = e := Except.error.inj h
      exact ⟨a, List.mem_cons_self .., hf⟩
    | ok b =>
      rw [hf] at h
      cases hl : l.mapM f with
      | error e' =>
        rw [hl] at h
        obtain rfl : e' = e := Except.error.inj h
        obtain ⟨x, hx, hfx⟩ := ih hl
        exact ⟨x, List.mem_cons_of_mem a hx, hfx⟩
      | ok bs =>
        rw [hl] at h
        exact absurd h (by simp [bind, Except.bind, pure, Except.pure])

end

end Stencil
