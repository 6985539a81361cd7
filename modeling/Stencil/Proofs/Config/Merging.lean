import Stencil.Proofs.Config.Options

/-!
# Merged options

A field has a type of contents, a way to read what is given for it, and a default
(`OptionField.Content`, `read`, `standard`). Options are made of what is given if every field is
read, and they hold what is read (`Options.ofGiven_eq_ok_iff`); the contents of options are read
back as they are (`Options.content_given`). Main statement: `Options.merged_overlay`, merging one
after the other is merging with all that is given at once, the later over the earlier.
-/

namespace Stencil

/-! ## Fields and their contents -/

namespace OptionField

/-- What options hold for a field; nothing for the dialect, which is no option of a call. -/
abbrev Content : OptionField → Type
  | openDelimiter | closeDelimiter => Delimiter
  | literal | trim => Bool
  | transformer => Choice
  | na | sep | comment => Text
  | broadcast => BroadcastPolicy
  | dialect => Unit

/-- Reads what is given for a field. -/
def read : (f : OptionField) → Given → Except OptionFault f.Content
  | openDelimiter | closeDelimiter => Given.read Value.readDelimiter .notText
  | literal | trim => Given.read Value.readTruth .notTruth
  | transformer => Given.readChoice
  | na | sep => Given.read Value.readText .notText
  | comment => Given.read Value.readComment .notText
  | broadcast => Given.read Value.readPolicy .notPolicy
  | dialect => fun _ => .ok ()

end OptionField

namespace Options

/-- What options hold for a field. -/
def content (o : Options) : (f : OptionField) → f.Content
  | .openDelimiter => (⟨o.layout.rules.opening, o.layout.rules.opening_ne⟩ : Delimiter)
  | .closeDelimiter => (⟨o.layout.rules.closing, o.layout.rules.closing_ne⟩ : Delimiter)
  | .literal => o.layout.rules.literal
  | .transformer => o.transformer
  | .na => o.layout.na
  | .sep => o.layout.sep
  | .trim => o.layout.trim
  | .comment => o.layout.rules.comment
  | .broadcast => o.layout.broadcast
  | .dialect => ()

end Options

/-- The checked content of a field: what is given for it, or its default. -/
def GivenOptions.content (given : GivenOptions) (f : OptionField) : Checked f.Content :=
  given.field f (Options.standard.content f) f.read

namespace GivenOptions

variable {given given' : GivenOptions} {f : OptionField}

theorem content_of_lookup {g : Given} (h : given.lookup f.name = some g) :
    given.content f = (f.read g).mapError fun fault => [⟨f, fault⟩] := by
  rw [content, field, h]

theorem content_of_lookup_eq_none (h : given.lookup f.name = none) :
    given.content f = .ok (Options.standard.content f) := by
  rw [content, field, h]

theorem content_congr (h : given.lookup f.name = given'.lookup f.name) :
    given.content f = given'.content f := by
  rw [content, content, field, field, h]

theorem content_dialect (given : GivenOptions) : given.content .dialect = .ok () := by
  cases h : given.lookup OptionField.dialect.name with
  | none => exact content_of_lookup_eq_none h
  | some g => exact content_of_lookup h

theorem lookup_overlay (given top : GivenOptions) (x : Text) :
    (given.overlay top).lookup x = (top.lookup x).or (given.lookup x) :=
  List.lookup_append ..

end GivenOptions

/-! ## Checking all fields -/

namespace Checked

variable {α β : Type}

theorem apply_eq_ok_iff {c : Checked (α → β)} {d : Checked α} {b : β} :
    c.apply d = .ok b ↔ ∃ g a, c = .ok g ∧ d = .ok a ∧ g a = b := by
  cases c <;> cases d <;> simp [Checked.apply]

end Checked

namespace Options

variable {given given' : GivenOptions} {o : Options}

theorem ofGiven_eq (given : GivenOptions) :
    ofGiven given =
      (Checked.apply (.ok make) (given.content .openDelimiter)
        |>.apply (given.content .closeDelimiter)
        |>.apply (given.content .literal)
        |>.apply (given.content .transformer)
        |>.apply (given.content .na)
        |>.apply (given.content .sep)
        |>.apply (given.content .trim)
        |>.apply (given.content .comment)
        |>.apply (given.content .broadcast)) :=
  rfl

/-- Options are made of what is given if every field is read, and hold what is read. -/
theorem ofGiven_eq_ok_iff : ofGiven given = .ok o ↔ ∀ f, given.content f = .ok (o.content f) := by
  rw [ofGiven_eq]
  simp only [Checked.apply_eq_ok_iff]
  constructor
  · rintro ⟨_, broadcast, ⟨_, comment, ⟨_, trim, ⟨_, sep, ⟨_, na, ⟨_, transformer, ⟨_, literal,
      ⟨_, closing, ⟨_, opening, ⟨⟩, hopening, rfl⟩, hclosing, rfl⟩, hliteral, rfl⟩,
      htransformer, rfl⟩, hna, rfl⟩, hsep, rfl⟩, htrim, rfl⟩, hcomment, rfl⟩, hbroadcast, rfl⟩
    intro f
    cases f with
    | openDelimiter => exact hopening
    | closeDelimiter => exact hclosing
    | literal => exact hliteral
    | transformer => exact htransformer
    | na => exact hna
    | sep => exact hsep
    | trim => exact htrim
    | comment => exact hcomment
    | broadcast => exact hbroadcast
    | dialect => exact given.content_dialect
  · intro h
    exact ⟨_, _, ⟨_, _, ⟨_, _, ⟨_, _, ⟨_, _, ⟨_, _, ⟨_, _, ⟨_, _, ⟨_, _, rfl,
      h .openDelimiter, rfl⟩, h .closeDelimiter, rfl⟩, h .literal, rfl⟩, h .transformer, rfl⟩,
      h .na, rfl⟩, h .sep, rfl⟩, h .trim, rfl⟩, h .comment, rfl⟩, h .broadcast, rfl⟩

/-- Where every field is read alike, the same options are made or the same errors reported. -/
theorem ofGiven_congr (h : ∀ f, given.content f = given'.content f) :
    ofGiven given = ofGiven given' := by
  rw [ofGiven_eq, ofGiven_eq]
  simp only [h]

/-- Only what is given under the names of options counts. -/
theorem ofGiven_congr_lookup
    (h : ∀ f, f ≠ OptionField.dialect → given.lookup f.name = given'.lookup f.name) :
    ofGiven given = ofGiven given' := by
  refine ofGiven_congr fun f => ?_
  by_cases hf : f = .dialect
  · subst hf
    rw [GivenOptions.content_dialect, GivenOptions.content_dialect]
  · exact GivenOptions.content_congr (h f hf)

end Options

/-! ## Contents that are given again -/

theorem Value.readDelimiter_text {s : Text} (h : s ≠ []) :
    (Value.text s).readDelimiter = .ok ⟨s, h⟩ :=
  dif_neg h

theorem Value.readComment_text {s : Text} (h : s.length ≤ 1) :
    (Value.text s).readComment = .ok s :=
  if_neg (Nat.not_lt.2 h)

theorem Value.length_le_of_readComment {v : Value} {s : Text} (h : v.readComment = .ok s) :
    s.length ≤ 1 := by
  rw [readComment] at h
  cases htext : v.readText with
  | error e =>
    rw [htext] at h
    cases h
  | ok t =>
    rw [htext] at h
    by_cases hlong : t.length > 1
    · cases (if_pos hlong).symm.trans h
    · obtain rfl : t = s := Except.ok.inj ((if_neg hlong).symm.trans h)
      exact Nat.not_lt.1 hlong

namespace Options

variable {given : GivenOptions} {o : Options}

/-- Options that are made have no long comment. -/
theorem length_comment_le (h : ofGiven given = .ok o) : o.layout.rules.comment.length ≤ 1 := by
  have hcomment : given.content .comment = .ok (o.content .comment) := ofGiven_eq_ok_iff.1 h _
  cases hlookup : given.lookup OptionField.comment.name with
  | none =>
    have hstandard := (GivenOptions.content_of_lookup_eq_none hlookup).symm.trans hcomment
    have hown : standard.layout.rules.comment = o.layout.rules.comment := Except.ok.inj hstandard
    rw [← hown]
    decide
  | some g =>
    rw [GivenOptions.content_of_lookup hlookup, mapError_eq_ok_iff] at hcomment
    cases g with
    | transformer t => cases hcomment
    | value v => exact Value.length_le_of_readComment hcomment

/-- What options hold for a field is read back as it is. -/
theorem content_given (h : o.layout.rules.comment.length ≤ 1) (f : OptionField) :
    o.given.content f = .ok (o.content f) := by
  obtain ⟨⟨⟨opening, closing, literal, comment, hopening, hclosing⟩, na, sep, trim, broadcast⟩,
    transformer⟩ := o
  cases f with
  | openDelimiter =>
    exact congrArg (Except.mapError _) (Value.readDelimiter_text hopening)
  | closeDelimiter =>
    exact congrArg (Except.mapError _) (Value.readDelimiter_text hclosing)
  | transformer => cases transformer <;> rfl
  | comment => exact congrArg (Except.mapError _) (Value.readComment_text h)
  | broadcast => cases broadcast <;> rfl
  | dialect => exact GivenOptions.content_dialect _
  | _ => rfl

/-! ## Merging -/

/-- Whether options are given under a name. -/
def isName (x : Text) : Bool := (standard.given.map (·.1)).contains x

theorem isName_name {f : OptionField} (h : f ≠ .dialect) : isName f.name = true := by
  cases f with
  | dialect => exact absurd rfl h
  | _ => decide

theorem lookup_filter_of_eq_true {p : Text → Bool} {x : Text} (hx : p x = true)
    (given : GivenOptions) :
    (given.filter fun e => p e.1).lookup x = given.lookup x := by
  induction given with
  | nil => rfl
  | cons e given ih =>
    obtain ⟨y, g⟩ := e
    by_cases hy : x = y
    · subst hy
      simp [hx]
    · cases hp : p y <;> simp [hp, ih, List.lookup_cons, beq_eq_false_iff_ne.2 hy]

/-- What is given again over something else decides, and the rest stays. -/
theorem content_merged {top : GivenOptions} {f : OptionField} {c : Checked f.Content}
    (hgiven : given.content f = c) :
    (given.overlay top).content f =
      (top.lookup f.name).elim c fun g => (f.read g).mapError fun fault => [⟨f, fault⟩] := by
  cases hlookup : top.lookup f.name with
  | none =>
    have hstays : (given.overlay top).lookup f.name = given.lookup f.name := by
      rw [GivenOptions.lookup_overlay, hlookup, Option.none_or]
    exact (GivenOptions.content_congr hstays).trans hgiven
  | some g =>
    refine GivenOptions.content_of_lookup ?_
    rw [GivenOptions.lookup_overlay, hlookup, Option.some_or]

end Options

/-- What settings make for a field, the dialect included. -/
def Settings.made (s : Settings) : OptionField → Option Value
  | .dialect => s.dialect.map .text
  | f => s.givenFor f

theorem Settings.lookup_given_eq_made (s : Settings) {f : OptionField} (h : f ≠ .dialect) :
    s.given.lookup f.name = (s.made f).map .value := by
  rw [lookup_given]
  cases f with
  | dialect => exact absurd rfl h
  | _ => rfl

namespace Options

variable {given a : GivenOptions} {o o' : Options}

/-- Merging options that a check has made: nothing changes nothing, and one after the other is all
at once, with the same options or the same errors. A field that nothing is given for keeps its
content, and what is given under other names does nothing. Options of settings are the options of
all that the settings make, with what else is given over it. -/
theorem merged_overlay (ho : ofGiven given = .ok o) (ha : o.merged a = .ok o') :
    o.merged [] = .ok o ∧
      (∀ b, o'.merged b = o.merged (a.overlay b)) ∧
      (∀ f : OptionField, a.lookup f.name = none → o'.content f = o.content f) ∧
      (∀ b, o.merged (b.filter fun e => isName e.1) = o.merged b) ∧
      ∀ (s : Settings) (made b : GivenOptions),
        (∀ f : OptionField, made.lookup f.name = (s.made f).map .value) →
          ofSettings s b = ofGiven (made.overlay b) := by
  have hown (f : OptionField) : o.given.content f = .ok (o.content f) :=
    content_given (length_comment_le ho) f
  have hown' (f : OptionField) : o'.given.content f = .ok (o'.content f) :=
    content_given (length_comment_le ha) f
  have hmerged (f : OptionField) : (o.given.overlay a).content f = .ok (o'.content f) :=
    ofGiven_eq_ok_iff.1 ha f
  refine ⟨ofGiven_eq_ok_iff.2 hown, fun b => ofGiven_congr fun f => ?_, fun f hf => ?_,
    fun b => ofGiven_congr_lookup fun f hf => ?_,
    fun s made b hmade => ofGiven_congr_lookup fun f hf => ?_⟩
  · -- both are merged over the same contents
    have hover : o.given.overlay (a.overlay b) = (o.given.overlay a).overlay b :=
      List.append_assoc ..
    rw [hover, content_merged (hown' f), content_merged (hmerged f)]
  · have hkept : (o.given.overlay a).content f = _ := content_merged (hown f)
    rw [hf, hmerged f] at hkept
    exact Except.ok.inj hkept
  · rw [GivenOptions.lookup_overlay, GivenOptions.lookup_overlay,
      lookup_filter_of_eq_true (isName_name hf)]
  · rw [GivenOptions.lookup_overlay, GivenOptions.lookup_overlay, hmade,
      s.lookup_given_eq_made hf]

/-- A truth value given in words, and a policy by its name, are merged as what they were read as;
an empty delimiter is refused in both ways. -/
theorem merged_overlay_words :
    let given : GivenOptions := [("literal".toList, .value (.text "Yes".toList))]
    let a : GivenOptions :=
      [("broadcast".toList, .value (.text "strict".toList)), ("extra".toList, .value (.int 1))]
    let b : GivenOptions := [("open_delimiter".toList, .value (.text []))]
    let rules := Layout.standard.rules
    let o : Options := .make ⟨rules.opening, rules.opening_ne⟩ ⟨rules.closing, rules.closing_ne⟩
      true .standard Layout.standard.na Layout.standard.sep Layout.standard.trim rules.comment
      .recycle
    let o' : Options := ⟨{ o.layout with broadcast := .strict }, o.transformer⟩
    ofGiven given = .ok o ∧ o.merged a = .ok o' ∧
      o'.merged b = o.merged (a.overlay b) ∧
      o.merged (a.overlay b) = .error [⟨.openDelimiter, .emptyDelimiter⟩] := by
  intro given a b rules o o'
  have ho : ofGiven given = .ok o := rfl
  have ha : o.merged a = .ok o' := rfl
  obtain ⟨-, hoverlay, -⟩ := merged_overlay ho ha
  exact ⟨ho, ha, hoverlay b, rfl⟩

end Options
end Stencil
