import Mathlib.Data.List.Basic
import Stencil.Config.Settings
import Stencil.Proofs.Basic

/-!
# Options from settings

Settings are checked when a file is read, and once more when options are made of them. The second
check refuses values that the first lets pass: empty delimiters and long comments
(`Settings.refusals`). Main statement: `ofSettings_load`, the settings of a file make options, with
defaults for what is left open, if nothing is refused, and otherwise all refusals are reported.
-/

namespace Stencil

/-! ## Given settings -/

theorem OptionField.name_inj {f g : OptionField} (h : f.name = g.name) : f = g := by
  cases f <;> cases g <;> first | rfl | exact absurd h (by decide)

/-- A value as it is given for a field; nothing if the field is left open. -/
def GivenOptions.entry (f : OptionField) (v : Option Value) : GivenOptions :=
  (v.map fun v => (f.name, .value v)).toList

theorem GivenOptions.lookup_entry_append (f g : OptionField) (v : Option Value)
    (rest : GivenOptions) :
    (entry f v ++ rest).lookup g.name =
      if f = g then (v.map Given.value).or (rest.lookup g.name) else rest.lookup g.name := by
  cases v with
  | none => simp [entry]
  | some v =>
    have hname : (g.name == f.name) = decide (f = g) := by
      by_cases h : f = g
      · simp [h]
      · have hne : g.name ≠ f.name := fun hname => h (OptionField.name_inj hname).symm
        simp [h, hne]
    rw [entry, Option.map_some, Option.toList_some, List.singleton_append, List.lookup_cons, hname]
    by_cases h : f = g <;> simp [h]

open GivenOptions (entry) in
theorem Settings.given_eq (s : Settings) : s.given =
    entry .openDelimiter (s.opening.map .text) ++
    (entry .closeDelimiter (s.closing.map .text) ++
    (entry .literal (s.literal.map .bool) ++
    (entry .transformer (s.transformer.map .text) ++
    (entry .na (s.na.map .text) ++
    (entry .sep (s.sep.map .text) ++
    (entry .trim (s.trim.map .bool) ++
    (entry .comment (s.comment.map .text) ++
    (entry .broadcast (s.broadcast.map fun p => .text p.name) ++ [])))))))) := by
  simp [given, entry]

/-- What settings give for a field. -/
def Settings.givenFor (s : Settings) : OptionField → Option Value
  | .openDelimiter => s.opening.map .text
  | .closeDelimiter => s.closing.map .text
  | .literal => s.literal.map .bool
  | .transformer => s.transformer.map .text
  | .na => s.na.map .text
  | .sep => s.sep.map .text
  | .trim => s.trim.map .bool
  | .comment => s.comment.map .text
  | .broadcast => s.broadcast.map fun p => .text p.name
  | .dialect => .none

theorem Settings.lookup_given (s : Settings) (f : OptionField) :
    s.given.lookup f.name = (s.givenFor f).map .value := by
  rw [given_eq]
  simp only [GivenOptions.lookup_entry_append]
  cases f <;> simp [givenFor]

/-! ## Checks that report errors -/

/-- A check that reports errors, or has a result if there are none. -/
def Checked.reporting {α : Type} (errors : List OptionError) (a : α) : Checked α :=
  if errors = [] then .ok a else .error errors

namespace Checked

variable {α β : Type}

/-- Errors of a function and its argument are reported together. -/
theorem apply_reporting (e e' : List OptionError) (f : α → β) (a : α) :
    (reporting e f).apply (reporting e' a) = reporting (e ++ e') (f a) := by
  cases e <;> cases e' <;> simp [reporting, Checked.apply]

end Checked

namespace Settings

open Checked (reporting)

/-- A delimiter, or a default if there is none or it is empty. -/
def delimiterOr (default : Delimiter) : Option Text → Delimiter
  | .none => default
  | some t => if h : t = [] then default else ⟨t, h⟩

/-- The options that settings make: what they leave open is standard. -/
def options (s : Settings) : Options :=
  let rules := Layout.standard.rules
  .make (delimiterOr ⟨rules.opening, rules.opening_ne⟩ s.opening)
    (delimiterOr ⟨rules.closing, rules.closing_ne⟩ s.closing) (s.literal.getD rules.literal)
    ((s.transformer.map .name).getD .standard) (s.na.getD Layout.standard.na)
    (s.sep.getD Layout.standard.sep) (s.trim.getD Layout.standard.trim)
    (s.comment.getD rules.comment) (s.broadcast.getD Layout.standard.broadcast)

/-- The refusal of a delimiter that is empty. -/
def delimiterRefusals (f : OptionField) (t : Option Text) : List OptionError :=
  if t = some [] then [⟨f, .emptyDelimiter⟩] else []

/-- The refusal of a comment of more than one character. -/
def commentRefusals (t : Option Text) : List OptionError :=
  if 1 < (t.getD []).length then [⟨.comment, .longComment⟩] else []

/-- What is refused when options are made of settings, in the order of the fields. -/
def refusals (s : Settings) : List OptionError :=
  delimiterRefusals .openDelimiter s.opening ++ delimiterRefusals .closeDelimiter s.closing ++
    commentRefusals s.comment

section

variable (s : Settings) (f : OptionField)

/-- What settings give for a field is read, and what they leave open has its default. -/
theorem field_given {α β : Type} {g : β → Value} {t : Option β} (h : s.givenFor f = t.map g)
    (default : α) (read : Given → Except OptionFault α) :
    s.given.field f default read =
      t.elim (.ok default) fun x => (read (.value (g x))).mapError fun fault => [⟨f, fault⟩] := by
  rw [GivenOptions.field, lookup_given, h]
  cases t <;> rfl

theorem field_text {t : Option Text} (h : s.givenFor f = t.map .text) (default : Text) :
    s.given.field f default (Given.read Value.readText .notText) =
      reporting [] (t.getD default) := by
  rw [field_given s _ h]
  cases t <;> rfl

theorem field_truth {t : Option Bool} (h : s.givenFor f = t.map .bool) (default : Bool) :
    s.given.field f default (Given.read Value.readTruth .notTruth) =
      reporting [] (t.getD default) := by
  rw [field_given s _ h]
  cases t <;> rfl

theorem field_choice {t : Option Text} (h : s.givenFor f = t.map .text) (default : Choice) :
    s.given.field f default Given.readChoice =
      reporting [] ((t.map Choice.name).getD default) := by
  rw [field_given s _ h]
  cases t <;> rfl

/-- The name of a policy is read as that policy. -/
theorem field_policy {t : Option BroadcastPolicy}
    (h : s.givenFor f = t.map fun p => .text p.name) (default : BroadcastPolicy) :
    s.given.field f default (Given.read Value.readPolicy .notPolicy) =
      reporting [] (t.getD default) := by
  rw [field_given s _ h]
  match t with
  | .none => rfl
  | some .recycle => rfl
  | some .strict => rfl

theorem field_delimiter {t : Option Text} (h : s.givenFor f = t.map .text) (default : Delimiter) :
    s.given.field f default (Given.read Value.readDelimiter .notText) =
      reporting (delimiterRefusals f t) (delimiterOr default t) := by
  rw [field_given s _ h]
  match t with
  | .none => rfl
  | some [] => rfl
  | some (c :: t) => rfl

theorem field_comment {t : Option Text} (h : s.givenFor .comment = t.map .text) (default : Text) :
    s.given.field .comment default (Given.read Value.readComment .notText) =
      reporting (commentRefusals t) (t.getD default) := by
  rw [field_given s _ h]
  match t with
  | .none => rfl
  | some [] => rfl
  | some [c] => rfl
  | some (c :: d :: t) => rfl

end

/-! ## Options -/

/-- Settings make options if nothing is refused; otherwise all refusals are reported. -/
theorem ofSettings_eq (s : Settings) :
    Options.ofSettings s [] = reporting s.refusals s.options := by
  have hgiven : s.given.overlay [] = s.given := rfl
  have hstart : (.ok Options.make : Checked _) = reporting [] Options.make := rfl
  simp only [Options.ofSettings, Options.ofGiven, hgiven, hstart,
    field_delimiter s .openDelimiter rfl, field_delimiter s .closeDelimiter rfl,
    field_truth s .literal rfl, field_choice s .transformer rfl, field_text s .na rfl,
    field_text s .sep rfl, field_truth s .trim rfl, field_comment s rfl,
    field_policy s .broadcast rfl, Checked.apply_reporting, List.nil_append, List.append_nil]
  rfl

theorem refusals_eq_nil_iff {s : Settings} : s.refusals = [] ↔
    s.opening ≠ some [] ∧ s.closing ≠ some [] ∧ ∀ t, s.comment = some t → t.length ≤ 1 := by
  have hdelimiter (f : OptionField) (t : Option Text) :
      delimiterRefusals f t = [] ↔ t ≠ some [] := by
    simp [delimiterRefusals]
  have hcomment : commentRefusals s.comment = [] ↔ ∀ t, s.comment = some t → t.length ≤ 1 := by
    cases s.comment <;> simp [commentRefusals]
  rw [refusals, List.append_eq_nil_iff, List.append_eq_nil_iff, hdelimiter, hdelimiter, hcomment,
    and_assoc]

/-- A file that is left alone makes no settings. -/
theorem eq_none_of_read {name : Text} {file : ConfigFile} {s : Settings} {n : ConfigNotice}
    (h : read name file = .ok (s, some n)) : s = .none := by
  have hdocument {document : List (Text × Toml.Item)}
      (h : ofDocument name document = (s, some n)) : s = .none := by
    unfold ofDocument at h
    split at h
    · cases h
    · split at h <;> cases h
      rfl
    · cases h
      rfl
  unfold read at h
  split at h
  · cases h
  · cases h
    rfl
  · split at h
    · cases h
    · split at h
      · exact hdocument (Except.ok.inj h)
      · cases h
        rfl
      · cases h
      · cases h

/-- A console shows all lines, or it refuses one of them. -/
theorem showLines_cases (c : Console) (lines : List Text) :
    showLines c lines = .ok () ∧ (∀ line ∈ lines, c.refuses line = false) ∨
      ∃ line ∈ lines, c.refuses line = true ∧ showLines c lines = .error (.markup line) := by
  rw [showLines]
  cases hfound : lines.find? c.refuses with
  | none => exact .inl ⟨rfl, by simpa using hfound⟩
  | some line => exact .inr ⟨line, List.mem_of_find?_eq_some hfound, List.find?_some hfound, rfl⟩

/-- A file that is read is loaded once the lines of its notice are shown. -/
theorem load_of_read {c : Console} {name path : Text} {file : ConfigFile} {s : Settings}
    {notice : Option ConfigNotice} (h : read name file = .ok (s, notice)) :
    load c name path file =
      (showLines c (shown c name path file notice)).map fun _ => (s, notice) := by
  rw [load, h]
  rfl

theorem load_of_read_eq_error {c : Console} {name path : Text} {file : ConfigFile} {p : Problem}
    (h : read name file = .error p) : load c name path file = .error p := by
  rw [load, h]
  rfl

/-- What is loaded is what is read. -/
theorem read_of_load {c : Console} {name path : Text} {file : ConfigFile} {s : Settings}
    {notice : Option ConfigNotice} (h : load c name path file = .ok (s, notice)) :
    read name file = .ok (s, notice) := by
  rcases hread : read name file with p | ⟨s', notice'⟩
  · cases (load_of_read_eq_error hread).symm.trans h
  · rw [load_of_read hread] at h
    cases hshown : showLines c (shown c name path file notice') with
    | error p =>
      rw [hshown] at h
      cases h
    | ok _ =>
      rw [hshown] at h
      exact h

/-- The settings of a file make options unless a delimiter is empty or a comment has more than one
character; what is wrong with them is then reported for all fields. A file that is left alone makes
the standard options. -/
theorem ofSettings_load {c : Console} {name path : Text} {file : ConfigFile} {s : Settings}
    {notice : Option ConfigNotice} (h : load c name path file = .ok (s, notice)) :
    ((∃ o, Options.ofSettings s [] = .ok o) ↔
      s.opening ≠ some [] ∧ s.closing ≠ some [] ∧ ∀ t, s.comment = some t → t.length ≤ 1) ∧
    Options.ofSettings s [] = reporting s.refusals s.options ∧
    (notice.isSome = true → Options.ofSettings s [] = .ok .standard) := by
  refine ⟨?_, ofSettings_eq s, fun hnotice => ?_⟩
  · rw [← refusals_eq_nil_iff, ofSettings_eq, reporting]
    split <;> simp_all
  · obtain ⟨n, rfl⟩ := Option.isSome_iff_exists.1 hnotice
    -- nothing is set then, so nothing is refused
    rw [eq_none_of_read (read_of_load h), ofSettings_eq]
    rfl

/-- A section with an opening delimiter and an empty closing one. -/
theorem ofSettings_load_closing_delimiter :
    let file := ConfigFile.content
      ("[s]\nopen_delimiter = '<<'\nclose_delimiter = ''".toList.map fun c => c.toNat.toUInt8)
    let s : Settings := { Settings.none with opening := some ['<', '<'], closing := some [] }
    load .plain ['s'] ['p'] file = .ok (s, .none) ∧
      ((∃ o, Options.ofSettings s [] = .ok o) ↔
        s.opening ≠ some [] ∧ s.closing ≠ some [] ∧ ∀ t, s.comment = some t → t.length ≤ 1) ∧
      Options.ofSettings s [] = reporting s.refusals s.options ∧
      ((Option.none : Option ConfigNotice).isSome = true →
        Options.ofSettings s [] = .ok .standard) := by
  intro file s
  have h : load .plain ['s'] ['p'] file = .ok (s, .none) := eq_ok_of_match (by decide +kernel)
  exact ⟨h, ofSettings_load h⟩

/-- A section whose only setting is an empty delimiter is read without a notice, and no options can
be made of it. -/
theorem load_empty_delimiter :
    let file := ConfigFile.content
      ("[s]\nopen_delimiter = ''".toList.map fun c => c.toNat.toUInt8)
    ∃ s, load .plain ['s'] ['p'] file = .ok (s, .none) ∧
      Options.ofSettings s [] = .error [⟨.openDelimiter, .emptyDelimiter⟩] :=
  ⟨{ Settings.none with opening := some [] }, eq_ok_of_match (by decide +kernel), rfl⟩

end Settings

end Stencil
