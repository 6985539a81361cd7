import Stencil.Proofs.Moved.Compare

/-!
# Formats with moved arguments

A format becomes the same text when its arguments have moved.
-/

namespace Stencil.Printf

variable {g : Gap}

theorem nextArgument_moved (arguments : List Value) :
    nextArgument (arguments.map (Value.moved g)) =
      (nextArgument arguments).map fun (v, rest) => (v.moved g, rest.map (Value.moved g)) := by
  cases arguments <;> rfl

theorem starArgument_moved (arguments : List Value) :
    starArgument (arguments.map (Value.moved g)) =
      (starArgument arguments).map fun (i, rest) => (i, rest.map (Value.moved g)) := by
  cases arguments with
  | nil => rfl
  | cons v rest =>
    have hint := Value.int?_moved g v
    simp only [starArgument, nextArgument, List.map_cons, bind, Except.bind, hint]
    cases v.int? <;> rfl

theorem widthOf_moved (form : Text) (arguments : List Value) :
    widthOf form (arguments.map (Value.moved g)) =
      (widthOf form arguments).map fun (width, rest, arguments) =>
        (width, rest, arguments.map (Value.moved g)) := by
  unfold widthOf
  split
  · rw [starArgument_moved]
    rcases starArgument arguments with fault | ⟨i, rest⟩
    · rfl
    · simp only [bind, Except.bind, Except.map]
      split <;> rfl
  · split
    · rcases boundedNumber _ _ _ with fault | ⟨n, rest⟩ <;> rfl
    · rfl
  · rfl

theorem precisionOf_moved (form : Text) (arguments : List Value) :
    precisionOf form (arguments.map (Value.moved g)) =
      (precisionOf form arguments).map fun (precision, rest, arguments) =>
        (precision, rest, arguments.map (Value.moved g)) := by
  unfold precisionOf
  split
  · rw [starArgument_moved]
    rcases starArgument arguments with fault | ⟨i, rest⟩
    · rfl
    · simp only [bind, Except.bind, Except.map]
      split <;> rfl
  · rcases boundedNumber _ _ _ with fault | ⟨n, rest⟩ <;> rfl
  · rfl

theorem directiveOf_moved (form : Text) (arguments : List Value) :
    directiveOf form (arguments.map (Value.moved g)) =
      (directiveOf form arguments).map fun (d, rest, arguments) =>
        (d, rest, arguments.map (Value.moved g)) := by
  rw [directiveOf, directiveOf, widthOf_moved]
  rcases widthOf (form.dropWhile isFlag) arguments with fault | ⟨width, rest, arguments⟩
  · rfl
  · simp only [bind, Except.bind, Except.map, precisionOf_moved]
    rcases precisionOf rest arguments with fault | ⟨precision, rest, arguments⟩
    · rfl
    · simp only
      cases dropLengthMark rest <;> rfl

theorem convertChar_moved (d : Directive) (v : Value) :
    convertChar d (v.moved g) = convertChar d v := by
  rw [convertChar, convertChar, Value.text?_moved, Value.int?_moved]

theorem isLookedUp_moved (v : Value) : isLookedUp (v.moved g) = isLookedUp v := by
  cases v <;> rfl

section

variable {s t : Store} (h : s.Moved g t)
include h

theorem valueAt_dict_moved (r : Ref) (key : Text) :
    valueAt t (.dict (g.ref r)) key = (valueAt s (.dict r) key).map (Value.moved g) := by
  simp only [valueAt]
  rw [h.entries, h.lookup_text]
  rcases s.lookup (s.entries r) (.text key) with fault | _ | v <;> rfl

theorem valueAt_moved (v : Value) (key : Text) :
    valueAt t (v.moved g) key = (valueAt s v key).map (Value.moved g) := by
  have htype := Value.typePath_moved g v
  cases v with
  | dict r => exact valueAt_dict_moved h r key
  | frame r => exact valueAt_dict_moved h r key
  | bytes b => rfl
  | _ =>
    exact congrArg (fun path => Except.error
      (Fault.type (path ++ " indices must be integers or slices, not str"))) htype

theorem keyedArguments_moved (source : Option Value) (form : Text) (arguments : List Value) :
    keyedArguments t (source.map (Value.moved g)) form (arguments.map (Value.moved g)) =
      (keyedArguments s source form arguments).map fun (rest, arguments) =>
        (rest, arguments.map (Value.moved g)) := by
  unfold keyedArguments
  split
  · rename_i rest
    rcases source with _ | v
    · rfl
    · rcases spanKey? 0 rest with _ | ⟨key, rest⟩
      · rfl
      · simp only [Option.map_some, valueAt_moved h]
        cases valueAt s v key <;> rfl
  · rfl

theorem convert_moved (d : Directive) (offset : Nat) (v : Value) :
    convert t d offset (v.moved g) = convert s d offset v := by
  simp only [convert, h.text, h.quoted, Value.toInt_moved, Value.toFloat_moved,
    Value.typePath_moved, Value.int?_moved, convertChar_moved]

theorem formatFrom_moved (source : Option Value) (size n : Nat) (form : Text)
    (arguments : List Value) :
    formatFrom t (source.map (Value.moved g)) size n form (arguments.map (Value.moved g)) =
      formatFrom s source size n form arguments := by
  induction n, form, arguments using formatFrom.induct source with
  | case1 n arguments hall => simp [formatFrom]
  | case2 n arguments hall => simp [formatFrom]
  | case3 c form arguments => rw [formatFrom, formatFrom]
  | case4 n rest arguments ih => rw [formatFrom, formatFrom, ih]
  | case5 n rest arguments hrest ih =>
    rw [formatFrom.eq_4 _ _ _ _ _ _ hrest, formatFrom.eq_4 _ _ _ _ _ _ hrest,
      keyedArguments_moved h]
    rcases keyedArguments s source rest arguments with fault | ⟨rest, arguments⟩ <;>
      simp only [bind, Except.bind, Except.map]
    rw [directiveOf_moved]
    rcases directiveOf rest arguments with fault | ⟨d, rest, arguments⟩
    · rfl
    simp only [Except.map, nextArgument_moved]
    rcases nextArgument arguments with fault | ⟨v, arguments⟩
    · rfl
    simp only [convert_moved h, ih]
  | case6 n c rest arguments hrest hc ih =>
    rw [formatFrom.eq_5 _ _ _ _ _ _ _ hrest hc, formatFrom.eq_5 _ _ _ _ _ _ _ hrest hc, ih]

theorem format_moved (form : Text) (arguments : List Value) :
    format t form (arguments.map (Value.moved g)) = format s form arguments :=
  formatFrom_moved h none form.length form.length form arguments

theorem formatValue_moved (form : Text) (v : Value) :
    formatValue t form (v.moved g) = formatValue s form v := by
  have hlooked := isLookedUp_moved (g := g) v
  have hsource : (if isLookedUp (v.moved g) then some (v.moved g) else none) =
      (if isLookedUp v then some v else none).map (Value.moved g) := by
    rw [hlooked]
    split <;> rfl
  have hform (source : Option Value) := formatFrom_moved h source form.length form.length form [v]
  cases v with
  | tuple items => simpa [formatValue, Value.moved] using format_moved h form items
  | _ =>
    rw [formatValue, formatValue, hsource]
    · exact hform _
    all_goals simp [Value.moved]

end

end Stencil.Printf
