import Stencil.Proofs.Moved.Printf

/-!
# Arithmetic on moved values

Operators give moved results for moved operands. Numbers and dates refer to nothing, so that what
comes of them is the same wherever things are stored; of what sequences become, new lists are put
into the store.
-/

namespace Stencil

open Stencil.Expr (BinaryOp UnaryOp)

variable {g : Gap}

/-! ## Results that refer to nothing -/

/-- A result that is the same wherever things are stored. -/
def Unmoved (g : Gap) (r : Except Fault Value) : Prop := r.map (Value.moved g) = r

/-- A result that is the same wherever things are stored, if there is one. -/
def Unmoved? (g : Gap) (r : Option (Except Fault Value)) : Prop := ∀ e ∈ r, Unmoved g e

theorem unmoved?_some {r : Except Fault Value} (h : Unmoved g r) : Unmoved? g (some r) := by
  intro e he
  obtain rfl := Option.some.inj he
  exact h

theorem unmoved?_none : Unmoved? g none := by
  intro e he
  cases he

theorem unmoved_bind {α : Type} {c : Except Fault α} {k : α → Except Fault Value}
    (h : ∀ a, Unmoved g (k a)) : Unmoved g (c >>= k) := by
  cases c with
  | error fault => rfl
  | ok a => exact h a

theorem unmoved_complexResult (r : Except Number.ComplexFault Number.Complex) :
    Unmoved g (complexResult r) := by
  cases r with
  | error fault => cases fault <;> rfl
  | ok z => rfl

theorem unmoved_floatPower (x y : Float) : Unmoved g (floatPower x y) := by
  unfold floatPower
  split
  · rfl
  · split
    · exact unmoved_complexResult _
    · simp only
      split
      · rfl
      · simp [Unmoved, Except.map, Value.moved]

theorem unmoved_float (x : Float) : Unmoved g (.ok (.float x 0)) := by
  simp [Unmoved, Except.map, Value.moved]

theorem unmoved?_floatBinary? (op : BinaryOp) (x y : Float) :
    Unmoved? g (floatBinary? op x y) := by
  cases op with
  | add => exact unmoved?_some (unmoved_float _)
  | sub => exact unmoved?_some (unmoved_float _)
  | mul => exact unmoved?_some (unmoved_float _)
  | div | floorDiv | mod =>
    refine unmoved?_some ?_
    split
    · rfl
    · exact unmoved_float _
  | pow => exact unmoved?_some (unmoved_floatPower x y)
  | _ => exact unmoved?_none

theorem unmoved_intQuotient (a b : Int) : Unmoved g (intQuotient a b) := by
  unfold intQuotient
  split
  · rfl
  · simp only
    split
    · rfl
    · exact unmoved_float _

theorem unmoved?_intBinary? (op : BinaryOp) (a b : Int) : Unmoved? g (intBinary? op a b) := by
  cases op with
  | add => exact unmoved?_some rfl
  | sub => exact unmoved?_some rfl
  | mul => exact unmoved?_some rfl
  | div => exact unmoved?_some (unmoved_intQuotient a b)
  | floorDiv | mod =>
    refine unmoved?_some ?_
    split <;> rfl
  | pow =>
    refine unmoved?_some ?_
    split
    · rfl
    · exact unmoved_bind fun _ => unmoved_bind fun _ => unmoved_floatPower _ _
  | _ => exact unmoved?_none

theorem unmoved_decimalResult (r : Except Number.DecimalFault Number.Decimal) :
    Unmoved g (decimalResult r) := by
  cases r with
  | error fault => rfl
  | ok d => simp [Unmoved, decimalResult, Except.map, Except.mapError, Value.moved]

theorem unmoved?_decimalBinary? (op : BinaryOp) (x y : Number.Decimal) :
    Unmoved? g (decimalBinary? op x y) := by
  cases op <;> first
    | exact unmoved?_some (unmoved_decimalResult _)
    | exact unmoved?_none

theorem unmoved?_complexBinary? (op : BinaryOp) (a b : Number.Complex) :
    Unmoved? g (complexBinary? op a b) := by
  cases op <;> first
    | exact unmoved?_some rfl
    | exact unmoved?_some (unmoved_complexResult _)
    | exact unmoved?_none

theorem unmoved?_onNumbers? {α : Type} {f : α → α → Option (Except Fault Value)}
    (h : ∀ x y, Unmoved? g (f x y)) (a b : Except Fault α) : Unmoved? g (onNumbers? f a b) := by
  rcases a with fault | x
  · exact unmoved?_some rfl
  · rcases b with fault | y
    · exact unmoved?_some rfl
    · exact h x y

theorem unmoved_durationResult (n : Int) : Unmoved g (durationResult n) := by
  unfold durationResult
  simp only
  split
  · rfl
  · split <;> rfl

theorem unmoved_dateResult (n : Int) : Unmoved g (dateResult n) := by
  unfold dateResult
  split <;> rfl

theorem unmoved_momentResult (n : Int) : Unmoved g (momentResult n) := by
  unfold momentResult
  simp only
  split <;> rfl

theorem unmoved_scaled (d : Duration) (num den : Int) : Unmoved g (scaled d num den) := by
  unfold scaled
  split
  · rfl
  · exact unmoved_durationResult _

theorem unmoved?_durationByNumber? (op : BinaryOp) (d : Duration) (v : Value) :
    Unmoved? g (durationByNumber? op d v) := by
  unfold durationByNumber?
  split
  · exact unmoved?_some (unmoved_scaled _ _ _)
  · exact unmoved?_some (unmoved_scaled _ _ _)
  · refine unmoved?_some ?_
    split
    · rfl
    · exact unmoved_durationResult _
  · exact unmoved?_some (unmoved_bind fun _ => unmoved_scaled _ _ _)
  · exact unmoved?_some (unmoved_bind fun _ => unmoved_scaled _ _ _)
  · exact unmoved?_none

theorem unmoved?_durationBinary? (op : BinaryOp) (a b : Int) :
    Unmoved? g (durationBinary? op a b) := by
  cases op with
  | add => exact unmoved?_some (unmoved_durationResult _)
  | sub => exact unmoved?_some (unmoved_durationResult _)
  | div =>
    refine unmoved?_some ?_
    split
    · rfl
    · exact unmoved_float _
  | floorDiv =>
    refine unmoved?_some ?_
    split <;> rfl
  | mod =>
    refine unmoved?_some ?_
    split
    · rfl
    · exact unmoved_durationResult _
  | _ => exact unmoved?_none

theorem unmoved?_calendarBinary? (op : BinaryOp) (a b : Value) :
    Unmoved? g (calendarBinary? op a b) := by
  unfold calendarBinary?
  split
  all_goals first
    | exact unmoved?_durationBinary? _ _ _
    | exact unmoved?_durationByNumber? _ _ _
    | exact unmoved?_some (unmoved_durationResult _)
    | exact unmoved?_some (unmoved_dateResult _)
    | exact unmoved?_some (unmoved_momentResult _)
    | exact unmoved?_none

/-! ## Numbers and dates -/

theorem floatOperand?_moved (v : Value) : floatOperand? (v.moved g) = floatOperand? v := by
  cases v <;> rfl

theorem complexOperand?_moved (v : Value) : complexOperand? (v.moved g) = complexOperand? v := by
  cases v <;> rfl

theorem decimalOperand?_moved (v : Value) : decimalOperand? (v.moved g) = decimalOperand? v := by
  cases v <;> rfl

theorem numberBinary?_moved (op : BinaryOp) (a b : Value) :
    numberBinary? op (a.moved g) (b.moved g) = numberBinary? op a b := by
  simp only [numberBinary?, Value.int?_moved, floatOperand?_moved, complexOperand?_moved,
    decimalOperand?_moved]

theorem unmoved?_numberBinary? (op : BinaryOp) (a b : Value) :
    Unmoved? g (numberBinary? op a b) := by
  unfold numberBinary?
  split
  · exact unmoved?_intBinary? _ _ _
  · split
    · exact unmoved?_onNumbers? (unmoved?_floatBinary? op) _ _
    · split
      · exact unmoved?_onNumbers? (unmoved?_complexBinary? op) _ _
      · rcases decimalOperand? a with _ | x
        · exact unmoved?_none
        · rcases decimalOperand? b with _ | y
          · exact unmoved?_none
          · exact unmoved?_decimalBinary? op x y

theorem durationByNumber?_moved (op : BinaryOp) (d : Duration) (v : Value) :
    durationByNumber? op d (v.moved g) = durationByNumber? op d v := by
  cases op <;> cases v <;> rfl

theorem moved_eq_duration {v : Value} {d : Duration} :
    v.moved g = .duration d ↔ v = .duration d := by
  cases v <;> simp [Value.moved]

theorem moved_eq_date {v : Value} {d : Date} : v.moved g = .date d ↔ v = .date d := by
  cases v <;> simp [Value.moved]

theorem moved_eq_datetime {v : Value} {d : Date} {t : Time} :
    v.moved g = .datetime d t ↔ v = .datetime d t := by
  cases v <;> simp [Value.moved]

theorem calendarBinary?_moved (op : BinaryOp) (a b : Value) :
    calendarBinary? op (a.moved g) (b.moved g) = calendarBinary? op a b := by
  unfold calendarBinary?
  split <;> simp only [moved_eq_duration, moved_eq_date, moved_eq_datetime] at *
  all_goals subst_vars
  all_goals try rfl
  all_goals split <;> grind [durationByNumber?_moved]

/-! ## Sequences -/

open Run (Follows)

/-- Computations that there are for moved values if there are any for the values themselves, and
that follow those. -/
def Follows? (g : Gap) : Option (Run Fault Value) → Option (Run Fault Value) → Prop :=
  Option.Rel (Follows g (Value.moved g))

theorem repeated_map {α β : Type} (f : α → β) (count : Int) (items : List α) :
    repeated count (items.map f) = (repeated count items).map (List.map f) := by
  unfold repeated
  rw [List.length_map]
  split
  · rfl
  · split
    · rfl
    · simp [Except.map, List.map_flatten]

theorem repeatValue?_moved (count : Int) (v : Value) :
    Follows? g (repeatValue? count v) (repeatValue? count (v.moved g)) := by
  cases v with
  | text s => exact .some ((Follows.same _).bind fun _ => .pure rfl)
  | fragment s => exact .some ((Follows.same _).bind fun _ => .pure rfl)
  | bytes s => exact .some ((Follows.same _).bind fun _ => .pure rfl)
  | tuple items =>
    rw [Value.moved, Value.movedItems_eq]
    refine .some ((Follows.ofExcept (repeated_map (Value.moved g) count items)).bind fun xs => ?_)
    exact .pure (by rw [Value.moved, Value.movedItems_eq])
  | list r =>
    refine .some (Follows.get_bind fun s t h => ?_)
    rw [h.items]
    exact (Follows.ofExcept (repeated_map (Value.moved g) count (s.items r))).bind .newList
  | _ => exact .none

theorem concatenated?_moved (a b : Value) :
    Follows? g (concatenated? a b) (concatenated? (a.moved g) (b.moved g)) := by
  simp only [concatenated?, Value.typePath_moved]
  cases a with
  | tuple xs =>
    cases b with
    | tuple ys =>
      refine .some (.pure ?_)
      simp [Value.moved]
    | _ => exact .some (.throw _)
  | bytes x =>
    cases b with
    | bytes y => exact .some (.pure rfl)
    | _ => exact .some (.throw _)
  | list r =>
    cases b with
    | list q =>
      refine .some (Follows.get_bind fun s t h => ?_)
      rw [h.items, h.items, ← List.map_append]
      exact .newList _
    | _ => exact .some (.throw _)
  | text x | fragment x =>
    cases b with
    | text y | fragment y => exact .some (.pure rfl)
    | _ => exact .some (.throw _)
  | _ => exact .none

theorem product?_moved (a b : Value) :
    Follows? g (product? a b) (product? (a.moved g) (b.moved g)) := by
  have hrefused (v : Value) :
      Follows g (Value.moved g)
        (throw (.type ("can't multiply sequence by non-int of type '" ++ v.typePath ++ "'")) :
          Run Fault Value)
        (throw (.type ("can't multiply sequence by non-int of type '" ++ (v.moved g).typePath ++
          "'"))) := by
    rw [Value.typePath_moved]
    exact .throw _
  have ha := repeatValue?_moved (g := g) (b.int?.getD 0) a
  have hb := repeatValue?_moved (g := g) (a.int?.getD 0) b
  simp only [product?, Value.int?_moved]
  generalize repeatValue? (b.int?.getD 0) a = ca at *
  generalize repeatValue? (b.int?.getD 0) (a.moved g) = da at *
  cases ha with
  | some h =>
    refine .some ?_
    split
    · exact h
    · exact hrefused b
  | none =>
    generalize repeatValue? (a.int?.getD 0) b = cb at *
    generalize repeatValue? (a.int?.getD 0) (b.moved g) = db at *
    cases hb with
    | some h =>
      refine .some ?_
      split
      · exact h
      · exact hrefused a
    | none => exact .none

theorem formatted?_moved (a b : Value) :
    Follows? g (formatted? a b) (formatted? (a.moved g) (b.moved g)) := by
  rw [formatted?, formatted?, Value.text?_moved]
  rcases a.text? with _ | form
  · exact .none
  · refine .some (Follows.get_bind fun s t h => ?_)
    rw [Printf.formatValue_moved h]
    refine (Follows.same _).bind fun text => .pure ?_
    rw [id_eq]
    split <;> rfl

theorem sequenceBinary?_moved (op : BinaryOp) (a b : Value) :
    Follows? g (sequenceBinary? op a b) (sequenceBinary? op (a.moved g) (b.moved g)) := by
  cases op with
  | add => exact concatenated?_moved a b
  | mul => exact product?_moved a b
  | mod => exact formatted?_moved a b
  | _ => exact .none

/-! ## Operators -/

/-- Numbers get marks of their own, whatever mark they had. -/
theorem marked_moved (v : Value) :
    Follows g (Value.moved g) (Run.marked v : Run Fault Value) (Run.marked (v.moved g)) := by
  cases v with
  | float x m =>
    simp only [Value.moved, Run.marked]
    split
    · exact Follows.mark.bind fun _ => .pure rfl
    · exact .pure (by simp [Value.moved])
  | decimal d m =>
    cases d with
    | nan negative signaling payload => exact Follows.mark.bind fun _ => .pure rfl
    | _ => exact .pure rfl
  | _ => exact .pure rfl

theorem marked_of_unmoved {r : Except Fault Value} (h : Unmoved g r) :
    Follows g (Value.moved g) (do Run.marked (← Run.ofExcept r) : Run Fault Value)
      (do Run.marked (← Run.ofExcept r)) :=
  (Follows.ofExcept h.symm).bind marked_moved

theorem ofExcept_of_unmoved {r : Except Fault Value} (h : Unmoved g r) :
    Follows g (Value.moved g) (Run.ofExcept r) (Run.ofExcept r) :=
  .ofExcept h.symm

theorem binaryValue_moved (op : BinaryOp) (a b : Value) :
    Follows g (Value.moved g) (binaryValue op a b) (binaryValue op (a.moved g) (b.moved g)) := by
  have hsequence := sequenceBinary?_moved (g := g) op a b
  have hresult : Unmoved? g (numberBinary? op a b <|> calendarBinary? op a b) := by
    intro r hr
    rcases hn : numberBinary? op a b with _ | x
    · rw [hn] at hr
      exact unmoved?_calendarBinary? op a b r hr
    · rw [hn] at hr
      exact unmoved?_numberBinary? op a b r (hn ▸ hr)
  have hfault : unsupportedOperands op (a.moved g) (b.moved g) = unsupportedOperands op a b := by
    rw [unsupportedOperands, unsupportedOperands, Value.typePath_moved, Value.typePath_moved]
  rw [binaryValue, binaryValue, numberBinary?_moved, calendarBinary?_moved, hfault]
  -- sequences are tried only where neither numbers nor dates have a result
  rcases hr : (numberBinary? op a b <|> calendarBinary? op a b) with _ | r
  · generalize sequenceBinary? op a b = c at *
    generalize sequenceBinary? op (a.moved g) (b.moved g) = d at *
    cases hsequence with
    | some h => exact h
    | none => exact .throw _
  · exact marked_of_unmoved (hresult r hr)

theorem Store.Moved.truth {s t : Store} (h : s.Moved g t) (v : Value) :
    t.truth (v.moved g) = s.truth v := by
  cases v with
  | tuple items => cases items <;> rfl
  | list r =>
    rw [Value.moved, Store.truth, Store.truth, h.items, List.isEmpty_map]
  | dict r =>
    rw [Value.moved, Store.truth, Store.truth, h.entries, List.isEmpty_map]
  | view m kind r =>
    rw [Value.moved, Store.truth, Store.truth, h.entries, List.isEmpty_map]
  | _ => rfl

theorem unaryValue_moved (op : UnaryOp) (v : Value) :
    Follows g (Value.moved g) (unaryValue op v) (unaryValue op (v.moved g)) := by
  simp only [unaryValue, Value.typePath_moved]
  cases op with
  | not =>
    refine Follows.get_bind fun s t h => .pure ?_
    rw [h.truth]
    rfl
  | plus =>
    cases v with
    | decimal d m => exact marked_of_unmoved (unmoved_decimalResult _)
    | bool _ | int _ | float _ _ | complex _ | duration _ => exact .pure rfl
    | _ => exact .throw _
  | minus =>
    cases v with
    | float x m => exact marked_moved (.float (-x) 0)
    | decimal d m => exact marked_of_unmoved (unmoved_decimalResult _)
    | duration d => exact ofExcept_of_unmoved (unmoved_durationResult _)
    | bool _ | int _ | complex _ => exact .pure rfl
    | _ => exact .throw _
  | invert =>
    cases v with
    | bool _ | int _ => exact .pure rfl
    | _ => exact .throw _

end Stencil
