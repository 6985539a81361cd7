import Mathlib.Data.List.TakeWhile
import Stencil.Proofs.Basic
import Stencil.Proofs.Render.Fallback
import Stencil.Transform.Apply

/-!
# Formats that fail

A format fails with a refusal, which is about the type or the value of an argument, or because
something is too large or too deeply nested (`Printf.Exceeds`). Each part of formatting gives what
the next part relies on, or fails in one of these ways (`Yields`, `Printf.Explained`). Main
statement: `Transformer.apply_sprintf_outcomes`, the elements of a block with a format have their
texts, or the block is to blame for the first that is refused, or a fault escapes.
-/

namespace Stencil

/-! ## Results and their faults -/

/-- A result of which `Q` holds, or a fault of which `P` holds. -/
inductive Yields {α : Type} (P : Fault → Prop) (Q : α → Prop) : Except Fault α → Prop
  | ok {a : α} (h : Q a) : Yields P Q (.ok a)
  | error {f : Fault} (h : P f) : Yields P Q (.error f)

namespace Yields

variable {α β : Type} {P : Fault → Prop} {Q : α → Prop} {R : β → Prop}

theorem bind {r : Except Fault α} {k : α → Except Fault β} (h : Yields P Q r)
    (hk : ∀ a, Q a → Yields P R (k a)) : Yields P R (r >>= k) := by
  cases h with
  | ok h => exact hk _ h
  | error h => exact .error h

theorem map {f : α → β} {r : Except Fault α} (h : Yields P Q r) (hR : ∀ a, Q a → R (f a)) :
    Yields P R (r.map f) := by
  cases h with
  | ok h => exact .ok (hR _ h)
  | error h => exact .error h

theorem mono {P' : Fault → Prop} {r : Except Fault α} (h : Yields P Q r)
    (hP : ∀ f, P f → P' f) : Yields P' Q r := by
  cases h with
  | ok h => exact .ok h
  | error h => exact .error (hP _ h)

theorem mapM {f : α → Except Fault β} {l : List α}
    (h : ∀ a ∈ l, Yields P (fun _ => True) (f a)) : Yields P (fun _ => True) (l.mapM f) := by
  cases hl : l.mapM f with
  | ok bs => exact .ok trivial
  | error fault =>
    obtain ⟨a, ha, hfault⟩ := exists_of_mapM_eq_error hl
    have hyields := h a ha
    rw [hfault] at hyields
    cases hyields with
    | error h => exact .error h

theorem of_eq_error {r : Except Fault α} {f : Fault} (h : Yields P Q r) (hr : r = .error f) :
    P f := by
  cases h with
  | ok h => cases hr
  | error h => exact Except.error.inj hr ▸ h

end Yields

/-- A fault about the type or the value of an argument. -/
def Fault.IsRefusal : Fault → Prop
  | .type _ | .value _ => True
  | _ => False

/-! ## The texts of values -/

/-- The only fault of a text: it is refused, or the value is nested too deeply. -/
def Fault.IsOfText (f : Fault) : Prop := f.IsRefusal ∨ f = .depth

theorem wholeText_yields (i : Int) : Yields Fault.IsRefusal (fun _ => True) (wholeText i) := by
  by_cases h : i.natAbs < Number.tens 4300
  · rw [wholeText, if_pos h]
    exact .ok trivial
  · rw [wholeText, if_neg h]
    exact .error trivial

theorem plainForm_yields (manner : Manner) (v : Value) :
    Yields Fault.IsOfText (fun _ => True) (plainForm manner v) := by
  cases v with
  | int i =>
    rw [plainForm]
    exact (wholeText_yields i).mono fun _ => .inl
  | function f => cases f <;> exact .ok trivial
  | _ => exact .ok trivial

theorem Store.form_yields (s : Store) (n : Nat) (within : List Ref) (manner : Manner)
    (v : Value) : Yields Fault.IsOfText (fun _ => True) (s.form n within manner v) := by
  induction n generalizing within manner v with
  | zero => exact .error (.inr rfl)
  | succ n ih =>
    have hplain := plainForm_yields manner v
    have hitems (within : List Ref) (l : List Value) :
        Yields Fault.IsOfText (fun _ => True) (l.mapM (s.form n within .quoted)) :=
      .mapM fun a _ => ih within .quoted a
    cases v with
    | tuple items =>
      rw [form]
      exact (hitems within items).bind fun _ _ => .ok trivial
    | slice start stop step =>
      rw [form]
      exact (hitems within _).bind fun _ _ => .ok trivial
    | list r =>
      rw [form]
      split
      · exact .ok trivial
      · exact (hitems _ _).bind fun _ _ => .ok trivial
    | dict r =>
      rw [form]
      split
      · exact .ok trivial
      · refine .bind (Q := fun _ => True) (.mapM fun e _ => ?_) fun _ _ => .ok trivial
        exact (ih _ _ e.1).bind fun _ _ => (ih _ _ e.2).bind fun _ _ => .ok trivial
    | view m kind r =>
      rw [form]
      exact (hitems within _).bind fun _ _ => .ok trivial
    | _ => simpa only [form] using hplain

/-! ## What is too large -/

namespace Printf

/-- A number that is spelled by digits of a format. -/
def Spells (form : Text) (n : Nat) : Prop :=
  ∃ digits, digits <:+: form ∧ (∀ c ∈ digits, c.isDigit = true) ∧
    Number.Decimal.digitsValue digits = n

/-- Why a format has no room for an argument. -/
inductive TooLarge (form : Text) (v : Value) : Prop
  /-- The argument is infinite. -/
  | infinite {negative : Bool} (h : v.magnitude? = some (.infinite negative))
  /-- It is an integer that is not the code point of a character. -/
  | integer {i : Int} (hv : v.int? = some i) (h : i < 0 ∨ 0x110000 ≤ i)
  /-- It is an integer beyond all floating-point numbers. -/
  | beyondFloats {i : Int} {message : String} (hv : v.int? = some i)
      (h : floatOfInt i = .error (.overflow message))
  /-- A width or a precision is more than there is memory for. -/
  | number {n : Nat} (h : Spells form n) (hn : longest < n)

/-- The faults of a format that are no refusals: something is too large, or the argument is nested
too deeply to be written. -/
inductive Exceeds (s : Store) (form : Text) (v : Value) : Fault → Prop
  | overflow {message : String} (h : TooLarge form v) : Exceeds s form v (.overflow message)
  | memory (h : TooLarge form v) : Exceeds s form v .memory
  | depth (h : s.text v = .error .depth ∨ s.quoted v = .error .depth) : Exceeds s form v .depth

/-- The faults of a format with an argument. -/
def Explained (s : Store) (form : Text) (v : Value) (f : Fault) : Prop :=
  f.IsRefusal ∨ Exceeds s form v f

/-- A size that is small unless something is too large. -/
def Sized (form : Text) (v : Value) (n : Nat) : Prop := longest < n → TooLarge form v

theorem longest_eq : longest = 100000000 := rfl

section

variable {s : Store} {form text : Text} {v : Value} {arguments : List Value}

theorem Sized.of_spells {n : Nat} (h : Spells form n) : Sized form v n := .number h

theorem Sized.of_int? {i : Int} (hv : v.int? = some i) : Sized form v i.natAbs := by
  intro hn
  rw [longest_eq] at hn
  exact .integer hv (by omega)

theorem Sized.zero : Sized form v 0 := fun hn => absurd hn (Nat.not_lt_zero _)

/-! ## Directives -/

theorem nextArgument_yields (h : ∀ a ∈ arguments, a = v) :
    Yields (Explained s form v) (fun r => r.1 = v ∧ ∀ a ∈ r.2, a = v)
      (nextArgument arguments) := by
  cases arguments with
  | nil => exact .error (.inl trivial)
  | cons a rest =>
    exact .ok ⟨h a (List.mem_cons_self ..), fun b hb => h b (List.mem_cons_of_mem a hb)⟩

theorem starArgument_yields (h : ∀ a ∈ arguments, a = v) :
    Yields (Explained s form v) (fun r => v.int? = some r.1 ∧ ∀ a ∈ r.2, a = v)
      (starArgument arguments) := by
  rw [starArgument]
  refine (nextArgument_yields h).bind ?_
  rintro ⟨a, rest⟩ ⟨rfl, hrest⟩
  dsimp only
  split
  · rename_i i hint
    exact .ok ⟨hint, hrest⟩
  · exact .error (.inl trivial)

theorem boundedNumber_yields (limit : Nat) (message : String) (htext : text <:+ form) :
    Yields (Explained s form v) (fun r => Sized form v r.1 ∧ r.2 <:+ text)
      (boundedNumber limit message text) := by
  rw [boundedNumber]
  split
  · have hdigits : text.takeWhile Char.isDigit <:+: form :=
      (List.takeWhile_prefix _).isInfix.trans htext.isInfix
    have hall : ∀ c ∈ text.takeWhile Char.isDigit, c.isDigit = true :=
      fun c hc => List.mem_takeWhile_imp hc
    exact .ok ⟨.of_spells ⟨_, hdigits, hall, rfl⟩, List.dropWhile_suffix _⟩
  · exact .error (.inl trivial)

theorem widthOf_yields (h : ∀ a ∈ arguments, a = v) (htext : text <:+ form) :
    Yields (Explained s form v)
      (fun r => Sized form v ((r.1.map Int.natAbs).getD 0) ∧ r.2.1 <:+ text ∧ ∀ a ∈ r.2.2, a = v)
      (widthOf text arguments) := by
  unfold widthOf
  split
  · refine (starArgument_yields h).bind ?_
    rintro ⟨i, rest⟩ ⟨hint, hrest⟩
    dsimp only
    split
    · exact .ok ⟨.of_int? hint, List.suffix_cons .., hrest⟩
    · rename_i hlarge
      refine .error (.inr (.overflow (Sized.of_int? hint ?_)))
      rw [longest_eq]
      have h63 : Number.twos 63 = 9223372036854775808 := rfl
      omega
  · split
    · refine (boundedNumber_yields _ _ htext).bind ?_
      rintro ⟨n, rest⟩ ⟨hsized, hrest⟩
      exact .ok ⟨hsized, hrest, h⟩
    · exact .ok ⟨.zero, List.suffix_refl _, h⟩
  · exact .ok ⟨.zero, List.suffix_refl _, h⟩

theorem precisionOf_yields (h : ∀ a ∈ arguments, a = v) (htext : text <:+ form) :
    Yields (Explained s form v)
      (fun r => Sized form v (r.1.getD 0) ∧ r.2.1 <:+ text ∧ ∀ a ∈ r.2.2, a = v)
      (precisionOf text arguments) := by
  unfold precisionOf
  split
  · refine (starArgument_yields h).bind ?_
    rintro ⟨i, rest⟩ ⟨hint, hrest⟩
    dsimp only
    split
    · have hle : i.toNat ≤ i.natAbs := by omega
      refine .ok ⟨fun hn => Sized.of_int? hint (hn.trans_le hle), ?_, hrest⟩
      exact (List.suffix_cons ..).trans (List.suffix_cons ..)
    · refine .error (.inr (.overflow (Sized.of_int? hint ?_)))
      rw [longest_eq]
      have h31 : Number.twos 31 = 2147483648 := rfl
      omega
  · rename_i rest _
    have hrest : rest <:+ form := (List.suffix_cons ..).trans htext
    refine (boundedNumber_yields _ _ hrest).bind ?_
    rintro ⟨n, rest'⟩ ⟨hsized, hrest'⟩
    exact .ok ⟨hsized, hrest'.trans (List.suffix_cons ..), h⟩
  · exact .ok ⟨.zero, List.suffix_refl _, h⟩

theorem dropLengthMark_suffix (text : Text) : dropLengthMark text <:+ text := by
  unfold dropLengthMark
  split
  · split
    · exact List.suffix_cons ..
    · exact List.suffix_refl _
  · exact List.suffix_refl _

/-- A directive whose width and precision are sized. -/
structure Fits (form : Text) (v : Value) (d : Directive) : Prop where
  width : Sized form v (d.width.getD 0)
  precision : Sized form v (d.precision.getD 0)

theorem directiveOf_yields (h : ∀ a ∈ arguments, a = v) (htext : text <:+ form) :
    Yields (Explained s form v)
      (fun r => Fits form v r.1 ∧ r.2.1 <:+ text ∧ ∀ a ∈ r.2.2, a = v)
      (directiveOf text arguments) := by
  rw [directiveOf]
  have hflags : text.dropWhile isFlag <:+ text := List.dropWhile_suffix _
  refine (widthOf_yields h (hflags.trans htext)).bind ?_
  rintro ⟨width, text₁, arguments₁⟩ ⟨hwidth, htext₁, h₁⟩
  have htext₁ : text₁ <:+ text := htext₁.trans hflags
  refine (precisionOf_yields h₁ (htext₁.trans htext)).bind ?_
  rintro ⟨precision, text₂, arguments₂⟩ ⟨hprecision, htext₂, h₂⟩
  have htext₂ : text₂ <:+ text := htext₂.trans htext₁
  have hmark := (dropLengthMark_suffix text₂).trans htext₂
  dsimp only
  split
  · exact .error (.inl trivial)
  · rename_i conversion rest hrest
    rw [hrest] at hmark
    exact .ok ⟨⟨hwidth, hprecision⟩, (List.suffix_cons ..).trans hmark, h₂⟩

/-! ## Conversions -/

variable {d : Directive}

theorem convertInt_yields (hd : Fits form v d) (i : Int) :
    Yields (Explained s form v) (fun _ => True) (convertInt d i) := by
  have hlarge : longest ≤ Number.twos 31 - 4 := by decide
  unfold convertInt
  dsimp only
  split
  · exact .error (.inr (.overflow (hd.precision (hlarge.trans_lt ‹_›))))
  split
  · exact .error (.inr (.memory (hd.precision ‹_›)))
  split
  · exact .ok trivial
  split
  · exact .ok trivial
  split
  · exact .ok trivial
  · exact ((wholeText_yields _).mono fun _ => .inl).bind fun _ _ => .ok trivial

theorem convertFloat_yields (hd : Fits form v d) (x : Float) :
    Yields (Explained s form v) (fun _ => True) (convertFloat d x) := by
  unfold convertFloat
  dsimp only
  split
  · exact .ok trivial
  · exact .ok trivial
  · split
    · rename_i hplaces
      refine .error (.inr (.memory (hd.precision ?_)))
      cases hprecision : d.precision with
      | none =>
        -- the six places that a format has by default are not too many
        rw [hprecision, longest_eq] at hplaces
        exact absurd hplaces (by decide)
      | some n => rwa [hprecision] at hplaces
    · exact .ok trivial

theorem convertChar_yields :
    Yields (Explained s form v) (fun _ => True) (convertChar d v) := by
  unfold convertChar
  split
  · exact .ok trivial
  · rename_i i hint _
    split
    · exact .ok trivial
    · exact .error (.inr (.overflow (.integer hint (by omega))))
  · exact .error (.inl trivial)

theorem toInt_yields (refusal : String) :
    Yields (Explained s form v) (fun _ => True) (v.toInt refusal) := by
  cases v with
  | bool | int => exact .ok trivial
  | float x r =>
    rw [Value.toInt, intOfFloat]
    split
    · exact .error (.inl trivial)
    · rename_i negative hparts
      have hinfinite : (Value.float x r).magnitude? = some (.infinite negative) := by
        rw [Value.magnitude?, Magnitude.ofFloat, hparts]
      exact .error (.inr (.overflow (.infinite hinfinite)))
    · exact .ok trivial
  | decimal x r =>
    cases x with
    | nan => exact .error (.inl trivial)
    | infinite negative => exact .error (.inr (.overflow (.infinite rfl)))
    | finite => exact .ok trivial
  | _ => exact .error (.inl trivial)

theorem floatOfInt_yields {i : Int} (hint : v.int? = some i) :
    Yields (Explained s form v) (fun _ => True) (floatOfInt i) := by
  cases hfloat : floatOfInt i with
  | ok x => exact .ok trivial
  | error f =>
    obtain rfl : f = .overflow "int too large to convert to float" := by
      rw [floatOfInt] at hfloat
      split at hfloat <;> cases hfloat
      rfl
    exact .error (.inr (.overflow (.beyondFloats hint hfloat)))

theorem toFloat_yields (refusal : String) :
    Yields (Explained s form v) (fun _ => True) (v.toFloat refusal) := by
  cases v with
  | int i => exact floatOfInt_yields rfl
  | decimal x r =>
    cases x with
    | nan _ signaling _ =>
      cases signaling with
      | true => exact .error (.inl trivial)
      | false => exact .ok trivial
    | infinite => exact .ok trivial
    | finite => exact .ok trivial
  | bool | float => exact .ok trivial
  | _ => exact .error (.inl trivial)

theorem explained_of_text {r : Except Fault Text} (h : Yields Fault.IsOfText (fun _ => True) r)
    (hdepth : r = .error .depth → s.text v = .error .depth ∨ s.quoted v = .error .depth) :
    Yields (Explained s form v) (fun _ => True) r := by
  cases h with
  | ok => exact .ok trivial
  | error hfault =>
    rcases hfault with hrefused | rfl
    · exact .error (.inl hrefused)
    · exact .error (.inr (.depth (hdepth rfl)))

theorem convert_yields (hd : Fits form v d) (offset : Nat) :
    Yields (Explained s form v) (fun _ => True) (convert s d offset v) := by
  have htext : Yields (Explained s form v) (fun _ => True) (s.text v) :=
    explained_of_text (s.form_yields ..) .inl
  have hquoted : Yields (Explained s form v) (fun _ => True) (s.quoted v) :=
    explained_of_text (s.form_yields ..) .inr
  unfold convert
  dsimp only
  split
  · exact htext.map fun _ _ => trivial
  split
  · exact hquoted.map fun _ _ => trivial
  split
  · exact hquoted.map fun _ _ => trivial
  split
  · exact (toInt_yields _).bind fun i _ => convertInt_yields hd i
  split
  · split
    · exact convertInt_yields hd _
    · exact .error (.inl trivial)
  split
  · exact (toFloat_yields _).bind fun x _ => convertFloat_yields hd x
  split
  · exact convertChar_yields
  · exact .error (.inl trivial)

theorem layout_yields (hd : Fits form v d) (x : Converted) :
    Yields (Explained s form v) (fun _ => True) (layout d x) := by
  unfold layout
  dsimp only
  split
  · exact .error (.inr (.memory (hd.width ‹_›)))
  split
  · exact .ok trivial
  split
  · exact .ok trivial
  · exact .ok trivial

/-! ## Formats -/

theorem keyedArguments_yields (htext : text <:+ form) (h : ∀ a ∈ arguments, a = v) :
    Yields (Explained s form v) (fun r => r.1 <:+ text ∧ ∀ a ∈ r.2, a = v)
      (keyedArguments s none text arguments) := by
  unfold keyedArguments
  split
  · exact .error (.inl trivial)
  · exact .ok ⟨List.suffix_refl _, h⟩

/-- A format whose arguments are all the same value. The steps are enough for the text that is left,
so it is never given up. -/
theorem formatFrom_yields (size n : Nat) (htext : text <:+ form) (hn : text.length ≤ n)
    (h : ∀ a ∈ arguments, a = v) :
    Yields (Explained s form v) (fun _ => True) (formatFrom s none size n text arguments) := by
  -- along the way, what is left stays an end of the format, and the arguments the same value
  induction n, text, arguments using formatFrom.induct none with
  | case1 n arguments hall =>
    rw [formatFrom, if_pos hall]
    exact .ok trivial
  | case2 n arguments hall =>
    rw [formatFrom, if_neg hall]
    exact .error (.inl trivial)
  | case3 c rest arguments => exact absurd hn (by simp)
  | case4 n rest arguments ih =>
    rw [formatFrom]
    have hrest : rest <:+ form := (List.suffix_cons ..).trans ((List.suffix_cons ..).trans htext)
    have hlength : rest.length ≤ n := by
      simp only [List.length_cons] at hn
      omega
    exact (ih hrest hlength h).bind fun _ _ => .ok trivial
  | case5 n rest arguments hrest ih =>
    rw [formatFrom.eq_4 _ _ _ _ _ _ hrest]
    have hform : rest <:+ form := (List.suffix_cons ..).trans htext
    have hlength : rest.length ≤ n := Nat.le_of_succ_le_succ hn
    refine (keyedArguments_yields hform h).bind ?_
    rintro ⟨rest₁, arguments₁⟩ ⟨hrest₁, h₁⟩
    refine (directiveOf_yields h₁ (hrest₁.trans hform)).bind ?_
    rintro ⟨d, rest₂, arguments₂⟩ ⟨hd, hrest₂, h₂⟩
    refine (nextArgument_yields h₂).bind ?_
    rintro ⟨a, arguments₃⟩ ⟨rfl, h₃⟩
    have hrest₂ : rest₂ <:+ rest := hrest₂.trans hrest₁
    refine (convert_yields hd _).bind fun x _ => ?_
    refine (layout_yields hd x).bind fun text _ => ?_
    exact (ih rest₂ arguments₃ (hrest₂.trans hform) (hrest₂.length_le.trans hlength) h₃).bind
      fun _ _ => .ok trivial
  | case6 n c rest arguments hrest hc ih =>
    rw [formatFrom.eq_5 _ _ _ _ _ _ _ hrest hc]
    have hform : rest <:+ form := (List.suffix_cons ..).trans htext
    exact (ih hform (Nat.le_of_succ_le_succ hn) h).bind fun _ _ => .ok trivial

theorem format_yields (s : Store) (form : Text) (v : Value) :
    Yields (Explained s form v) (fun _ => True) (format s form [v]) :=
  formatFrom_yields _ _ (List.suffix_refl _) le_rfl fun _ ha => List.mem_singleton.1 ha

end

/-- The texts of values that a format has been applied to, one after another. -/
def Formatted (s : Store) (form : Text) (items : List Value) (texts : List Text) : Prop :=
  List.Forall₂ (fun item text => format s form [item] = .ok text) items texts

end Printf

/-! ## Blocks with a format -/

namespace Transformer

open Printf

variable {delegate : Transformer} {text source written : Text} {c : Context} {v : Value}
  {items : List Value} {s s₁ s₂ : Store}

/-- The text of one element of a block with a format. -/
def formatElement (text form : Text) (item : Value) : Rendering Text := do
  let s ← get
  Run.ofExcept ((format s form [item]).mapError (blameFormat text))

theorem formatElement_apply (text form : Text) (item : Value) (s : Store) :
    formatElement text form item s = ((format s form [item]).mapError (blameFormat text), s) := by
  rfl

theorem mapM_formatElement_eq_ok_iff {form : Text} {texts : List Text} :
    (items.mapM (formatElement text form)) s = (.ok texts, s₁) ↔
      s = s₁ ∧ Formatted s form items texts := by
  rw [Run.mapM_of_reads fun item => formatElement_apply text form item s, Prod.mk.injEq,
    mapM_eq_ok_iff, and_comm]
  simp only [mapError_eq_ok_iff, Formatted]

theorem exists_of_formatElement_eq_error {form : Text} {item : Value} {p : Problem}
    (h : formatElement text form item s = (.error p, s₁)) :
    s = s₁ ∧ ∃ f, format s form [item] = .error f ∧ blameFormat text f = p := by
  rw [formatElement_apply] at h
  obtain ⟨hp, rfl⟩ := Prod.mk.inj h
  cases hformat : format s form [item] with
  | ok t =>
    rw [hformat] at hp
    cases hp
  | error f =>
    rw [hformat] at hp
    exact ⟨rfl, f, rfl, Except.error.inj hp⟩

/-- The block is to blame for what a format refuses, and for nothing else. -/
theorem blameFormat_cases {form : Text} {item : Value} {f : Fault}
    (h : format s form [item] = .error f) (text : Text) :
    f.IsRefusal ∧ blameFormat text f = .block text f ∨
      Exceeds s form item f ∧ blameFormat text f = .fault f := by
  rcases (format_yields s form item).of_eq_error h with hrefused | hexceeds
  · cases f with
    | type | value => exact .inl ⟨hrefused, rfl⟩
    | _ => exact hrefused.elim
  · cases hexceeds with
    | overflow hlarge => exact .inr ⟨.overflow hlarge, rfl⟩
    | memory hlarge => exact .inr ⟨.memory hlarge, rfl⟩
    | depth hdeep => exact .inr ⟨.depth hdeep, rfl⟩

theorem apply_sprintf_eq (hsplit : Template.splitFormat text = (source, some written))
    (hvalue : delegate.apply source c s = (.ok v, s₁)) (hitems : asVector v s₁ = (.ok items, s₂)) :
    (sprintf delegate).apply text c s =
      (items.mapM (formatElement text (formatOf written)) >>= fun texts =>
        Run.newList (texts.map .text)) s₂ := by
  have hitems : Rendering.ofFaults (asVector v) s₁ = (.ok items, s₂) := by
    rw [Rendering.ofFaults, Run.mapError_apply, hitems]
    rfl
  simp only [apply, hsplit]
  rw [Run.bind_of_ok hvalue, Run.bind_of_ok hitems]
  rfl

/-- A block with a format whose expression has a value with elements gives the texts of all the
elements, in their order, or stops at the first that has none. Then the block is to blame, if the
format refuses the type or the value of the element; else a fault escapes, because something is too
large or nested too deeply. -/
theorem apply_sprintf_outcomes (hsplit : Template.splitFormat text = (source, some written))
    (hvalue : delegate.apply source c s = (.ok v, s₁)) (hitems : asVector v s₁ = (.ok items, s₂)) :
    let form := formatOf written
    let result := (sprintf delegate).apply text c s
    (∃ texts, Formatted s₂ form items texts ∧
      result = (.ok (.list s₂.cells.size), s₂.push (.list (texts.map .text)))) ∨
    ∃ done item rest texts f, items = done ++ item :: rest ∧ Formatted s₂ form done texts ∧
      format s₂ form [item] = .error f ∧
      (f.IsRefusal ∧ result = (.error (.block text f), s₂) ∨
        Exceeds s₂ form item f ∧ result = (.error (.fault f), s₂)) := by
  intro form result
  have hresult : result = _ := apply_sprintf_eq hsplit hvalue hitems
  rcases hrun : (items.mapM (formatElement text form)) s₂ with ⟨p | texts, s'⟩
  · right
    obtain ⟨done, item, rest, texts, s₃, hlist, hdone, hitem⟩ := Run.mapM_eq_error_iff.1 hrun
    obtain ⟨rfl, htexts⟩ := mapM_formatElement_eq_ok_iff.1 hdone
    obtain ⟨rfl, f, hformat, rfl⟩ := exists_of_formatElement_eq_error hitem
    rw [Run.bind_of_error hrun] at hresult
    refine ⟨done, item, rest, texts, f, hlist, htexts, hformat, ?_⟩
    rcases blameFormat_cases hformat text with ⟨hrefused, hblame⟩ | ⟨hexceeds, hblame⟩
    · rw [hblame] at hresult
      exact .inl ⟨hrefused, hresult⟩
    · rw [hblame] at hresult
      exact .inr ⟨hexceeds, hresult⟩
  · left
    obtain ⟨rfl, htexts⟩ := mapM_formatElement_eq_ok_iff.1 hrun
    rw [Run.bind_of_ok hrun] at hresult
    exact ⟨texts, htexts, hresult⟩

/-- The block is to blame for the second element, which is no number. -/
theorem apply_sprintf_refused :
    let digits : Transformer :=
      .lookup [("x".toList, .tuple [.int 7, .text ['a']])] .star [',', ' ']
    let s := Store.empty
    Template.splitFormat "x:03d".toList = (['x'], some "03d".toList) ∧
      digits.apply ['x'] .empty s = (.ok (.tuple [.int 7, .text ['a']]), s) ∧
      asVector (.tuple [.int 7, .text ['a']]) s = (.ok [.int 7, .text ['a']], s) ∧
      Formatted s "%03d".toList [.int 7] ["007".toList] ∧
      (sprintf digits).apply "x:03d".toList .empty s =
        (.error (.block "x:03d".toList (.type "%d format: a real number is required, not str")),
          s) := by
  intro digits s
  have hsplit : Template.splitFormat "x:03d".toList = (['x'], some "03d".toList) := by
    decide +kernel
  have hvalue : digits.apply ['x'] .empty s = (.ok (.tuple [.int 7, .text ['a']]), s) := rfl
  have hitems : asVector (.tuple [.int 7, .text ['a']]) s = (.ok [.int 7, .text ['a']], s) := rfl
  have hseven : format s "%03d".toList [.int 7] = .ok "007".toList := by
    apply eq_ok_of_match
    decide +kernel
  have hletter : format s "%03d".toList [.text ['a']] =
      .error (.type "%d format: a real number is required, not str") := rfl
  refine ⟨hsplit, hvalue, hitems, .cons hseven .nil, ?_⟩
  rcases apply_sprintf_outcomes hsplit hvalue hitems with
    ⟨texts, hall, -⟩ | ⟨done, item, rest, texts, f, hlist, hdone, hitem, hend⟩
  · obtain ⟨t, -, ht⟩ := exists_right_of_mem hall (a := .text ['a']) (by simp)
    exact absurd (hletter.symm.trans ht) (by simp)
  · obtain ⟨rfl, rfl⟩ : item = .text ['a'] ∧ rest = [] := by
      match done, hlist with
      | [], hlist =>
        obtain rfl : .int 7 = item := (List.cons.inj hlist).1
        exact absurd (hseven.symm.trans hitem) (by simp)
      | [_], hlist => simpa [eq_comm] using (List.cons.inj hlist).2
      | _ :: _ :: _, hlist => simp at hlist
    obtain rfl : Fault.type _ = f := Except.error.inj (hletter.symm.trans hitem)
    rcases hend with ⟨-, hresult⟩ | ⟨hexceeds, -⟩
    · exact hresult
    · cases hexceeds

theorem exists_of_magnitude {r : Except Problem Value × Store} {m : Magnitude}
    (h : r.1.toOption.bind Value.magnitude? = some m) :
    ∃ v s, r = (.ok v, s) ∧ v.magnitude? = some m := by
  obtain ⟨_ | v, s⟩ := r
  · cases h
  · exact ⟨v, s, rfl, h⟩

theorem asVector_of_magnitude {m : Magnitude} (h : v.magnitude? = some m) :
    asVector v s = (.ok [v], s) := by
  cases v with
  | bool | int | float | decimal => rfl
  | _ => cases h

/-- An infinite number has no integer, but the block is not to blame. -/
theorem apply_sprintf_infinite :
    let c : Context := ⟨[(['x'], .float (1.0 / 0.0) 0)], [], []⟩
    Template.splitFormat "x:d".toList = (['x'], some ['d']) ∧
      (∃ v s, identity.apply ['x'] c .empty = (.ok v, s) ∧
        v.magnitude? = some (.infinite false) ∧ asVector v s = (.ok [v], s)) ∧
      ((sprintf .identity).apply "x:d".toList c .empty).1 =
        .error (.fault (.overflow "cannot convert float infinity to integer")) := by
  intro c
  refine ⟨by decide +kernel, ?_, ?_⟩
  · have hmagnitude : (identity.apply ['x'] c .empty).1.toOption.bind Value.magnitude? =
        some (.infinite false) := by
      decide +kernel
    obtain ⟨v, s, hvalue, hinfinite⟩ := exists_of_magnitude hmagnitude
    exact ⟨v, s, hvalue, hinfinite, asVector_of_magnitude hinfinite⟩
  · apply Call.eq_fault_of_match
    decide +kernel

end Transformer
end Stencil
