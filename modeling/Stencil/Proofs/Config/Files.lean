import Stencil.Proofs.Config.Options
import Stencil.Proofs.Config.Words
import Stencil.Proofs.Text.Utf8

/-!
# Files that cannot be used

A document that is refused is malformed, or it has a whole number of too many digits
(`HasLongNumber`), or more brackets than there is room for (`openings`); each reader answers for the
text that it is given (`Answers`), and what it says holds of all of the document
(`Excused.of_suffix`). Main statement: `Settings.load_outcomes`, only bytes that are no text and
documents of the last two kinds have no settings.
-/

namespace Stencil.Toml

/-! ## Errors and their reasons -/

/-- The number of brackets in a text that open arrays, sections or inline tables. -/
def openings (s : Text) : Nat := s.countP fun c => c == '[' || c == '\x7b'

/-- What a text must have in it for an error, where there is so much room for values inside
others. -/
def Excused (room : Nat) (s : Text) : ReadError → Prop
  | .malformed => True
  | .longNumber => HasLongNumber s
  | .deepNesting => room < 3 * openings s

theorem Excused.of_suffix {room : Nat} {s t : Text} {e : ReadError} (h : Excused room s e)
    (hs : s <:+ t) : Excused room t e := by
  cases e with
  | malformed => trivial
  | longNumber => exact HasLongNumber.of_suffix h hs
  | deepNesting =>
    have hle : openings s ≤ openings t := hs.sublist.countP_le
    have hroom : room < 3 * openings s := h
    exact show room < 3 * openings t by omega

theorem openings_cons {c : Char} (hc : c = '[' ∨ c = '\x7b') (s : Text) :
    openings (c :: s) = openings s + 1 := by
  obtain rfl | rfl := hc <;> simp [openings]

/-- What a reader gives for a text: something with the end of the text as its rest, or an error that
the text has a reason for. -/
def Answers {β : Type} (room : Nat) (rest : β → Text) (s : Text) : Except ReadError β → Prop
  | .ok b => rest b <:+ s
  | .error e => Excused room s e

namespace Answers

variable {β γ : Type} {room : Nat} {rest : β → Text} {rest' : γ → Text} {s t : Text}

theorem of_suffix {r : Except ReadError β} (h : Answers room rest s r) (hs : s <:+ t) :
    Answers room rest t r := by
  cases r with
  | ok b => exact List.IsSuffix.trans h hs
  | error e => exact Excused.of_suffix h hs

theorem malformed : Answers room rest s (.error .malformed) := trivial

/-- What stands after an opening bracket has less room, by at most three units. -/
theorem enter {r : Except ReadError β} {cost : Nat} {c : Char} (h : Answers (room - cost) rest s r)
    (hcost : cost ≤ 3) (hc : c = '[' ∨ c = '\x7b') : Answers room rest (c :: s) r := by
  cases r with
  | ok b => exact List.IsSuffix.trans h (List.suffix_cons ..)
  | error e =>
    cases e with
    | malformed => trivial
    | longNumber => exact HasLongNumber.of_suffix h (List.suffix_cons ..)
    | deepNesting =>
      have hroom : room - cost < 3 * openings s := h
      have hone := openings_cons hc s
      exact show room < 3 * openings (c :: s) by omega

/-- A bracket for which there is no room. -/
theorem deepNesting {c : Char} (hroom : room < 3) (hc : c = '[' ∨ c = '\x7b') (s : Text) :
    Answers room rest (c :: s) (.error .deepNesting) := by
  have hone := openings_cons hc s
  exact show room < 3 * openings (c :: s) by omega

theorem bind {r : Except ReadError β} {f : β → Except ReadError γ} (h : Answers room rest s r)
    (hf : ∀ b, rest b <:+ s → Answers room rest' s (f b)) : Answers room rest' s (r >>= f) := by
  cases r with
  | ok b => exact hf b h
  | error e => exact h

theorem found {r : Option β} (h : Leaves rest s r) : Answers room rest s (found r) := by
  cases r with
  | none => trivial
  | some b => exact h b rfl

/-- What is added to a document needs no text. -/
theorem added {r : Option β} : Answers room (fun _ => []) s (Toml.found r) :=
  .found fun _ _ => List.nil_suffix

end Answers

/-! ## Values -/

theorem after?_suffix {p s rest : Text} (h : Text.after? p s = some rest) : rest <:+ s :=
  ⟨p, (Text.after?_eq_some_iff.1 h).symm⟩

theorem answers_scalar (room : Nat) (s : Text) : Answers room Prod.snd s (scalar s) := by
  unfold scalar
  split
  case h_1 t rest ht => exact leaves_quotedText? s _ ht
  case h_2 =>
    split
    · trivial
    · split
      case h_1 rest _ hrest => exact after?_suffix hrest
      case h_2 rest _ hrest => exact after?_suffix hrest
      case h_3 =>
        -- of the readers that are tried the first that finds something counts
        split
        case h_1 valid rest hdate =>
          split
          · exact leaves_dateTime? s _ hdate
          · trivial
        case h_2 rest _ htime => exact leaves_time? s _ htime
        case h_3 number _ _ hnumber => exact leaves_basedNumber? s _ hnumber
        case h_4 item rest _ _ _ hnumber => exact leaves_decimalNumber? s _ hnumber
        case h_5 hnumber => exact hasLongNumber_of_decimalNumber? hnumber
        case h_6 => exact .found (leaves_specialNumber? s)

/-- All readers of values answer for the texts that they are given. -/
structure ReadsValues (n : Nat) : Prop where
  value : ∀ room s, Answers room Prod.snd s (value n room s)
  arrayItems : ∀ room s, Answers room Prod.snd s (arrayItems n room s)
  inlineEntries : ∀ room entries s, Answers room Prod.snd s (inlineEntries n room entries s)
  assignment : ∀ room s, Answers room (fun r => r.2.2) s (assignment n room s)

namespace ReadsValues

variable {n : Nat}

theorem zero : ReadsValues 0 where
  value _ _ := by rw [Toml.value]; exact .malformed
  arrayItems _ _ := by rw [Toml.arrayItems]; exact .malformed
  inlineEntries _ _ _ := by rw [Toml.inlineEntries]; exact .malformed
  assignment _ _ := by rw [Toml.assignment]; exact .malformed

theorem value_succ (h : ReadsValues n) (room : Nat) (s : Text) :
    Answers room Prod.snd s (Toml.value (n + 1) room s) := by
  unfold Toml.value
  split
  case h_1 rest =>
    split
    case isTrue hroom => exact .deepNesting (by omega) (.inl rfl) rest
    case isFalse =>
      -- an array takes up two units of the room of its items
      exact ((h.arrayItems (room - 2) rest).enter (by omega) (.inl rfl)).bind fun p hp => hp
  case h_2 rest =>
    split
    case isTrue hroom => exact .deepNesting hroom (.inr rfl) rest
    case isFalse =>
      -- an inline table takes up three, unless it is empty
      have hinner := skipSpace_suffix rest
      split
      case h_1 after heq =>
        rw [heq] at hinner
        exact ((List.suffix_cons ..).trans hinner).trans (List.suffix_cons ..)
      case h_2 =>
        have hentries := (h.inlineEntries (room - 3) [] (skipSpace rest)).of_suffix hinner
        exact (hentries.enter (Nat.le_refl 3) (.inr rfl)).bind fun p hp => hp
  case h_3 => exact answers_scalar room _

theorem arrayItems_succ (h : ReadsValues n) (room : Nat) (s : Text) :
    Answers room Prod.snd s (Toml.arrayItems (n + 1) room s) := by
  unfold Toml.arrayItems
  refine Answers.bind (.found (leaves_skipLines _ s)) fun t ht => ?_
  split
  case h_1 rest => exact (List.suffix_cons ..).trans ht
  case h_2 =>
    refine ((h.value room _).of_suffix ht).bind fun p hp => ?_
    refine Answers.bind (.found ((leaves_skipLines _ p.2).of_suffix hp)) fun u hu => ?_
    split
    case h_1 rest => exact (List.suffix_cons ..).trans hu
    case h_2 rest =>
      refine ((h.arrayItems room rest).of_suffix ((List.suffix_cons ..).trans hu)).bind
        fun q hq => ?_
      exact hq
    case h_3 => trivial

theorem inlineEntries_succ (h : ReadsValues n) (room : Nat) (entries : Entries) (s : Text) :
    Answers room Prod.snd s (Toml.inlineEntries (n + 1) room entries s) := by
  unfold Toml.inlineEntries
  refine (h.assignment room s).bind fun p hp => ?_
  have hrest : skipSpace p.2.2 <:+ s := (skipSpace_suffix _).trans hp
  refine Answers.added.bind fun entries _ => ?_
  split
  case h_1 rest heq =>
    rw [heq] at hrest
    exact (List.suffix_cons ..).trans hrest
  case h_2 rest heq =>
    rw [heq] at hrest
    exact (h.inlineEntries room entries _).of_suffix
      (((skipSpace_suffix rest).trans (List.suffix_cons ..)).trans hrest)
  case h_3 => trivial

theorem assignment_succ (h : ReadsValues n) (room : Nat) (s : Text) :
    Answers room (fun r => r.2.2) s (Toml.assignment (n + 1) room s) := by
  unfold Toml.assignment
  refine Answers.bind (.found (leaves_key? _ s)) fun p hp => ?_
  dsimp only
  split
  case h_1 rest heq =>
    rw [heq] at hp
    have hvalue : skipSpace rest <:+ s :=
      ((skipSpace_suffix rest).trans (List.suffix_cons ..)).trans hp
    refine ((h.value room _).of_suffix hvalue).bind fun q hq => ?_
    exact hq
  case h_2 => trivial

end ReadsValues

theorem readsValues (n : Nat) : ReadsValues n := by
  -- the readers call one another with less fuel, so that one induction does for all four
  induction n with
  | zero => exact .zero
  | succ n ih =>
    exact ⟨ih.value_succ, ih.arrayItems_succ, ih.inlineEntries_succ, ih.assignment_succ⟩

/-! ## Documents -/

theorem answers_sectionHeader (room : Nat) (st : State) (s : Text) :
    Answers room Prod.snd s (sectionHeader st s) := by
  unfold sectionHeader
  dsimp only
  split
  case h_1 s =>
    have hkey : skipSpace s <:+ '[' :: s := (skipSpace_suffix s).trans (List.suffix_cons ..)
    refine Answers.bind (.found ((leaves_key? _ _).of_suffix hkey)) fun p hp => ?_
    refine Answers.added.bind fun root _ => ?_
    split
    case h_1 rest heq =>
      rw [heq] at hp
      exact List.IsSuffix.trans ⟨[']', ']'], rfl⟩ hp
    case h_2 => exact .malformed
  case h_2 =>
    refine Answers.bind (.found ((leaves_key? _ _).of_suffix (skipSpace_suffix s))) fun p hp => ?_
    refine Answers.added.bind fun root _ => ?_
    split
    case h_1 rest heq =>
      rw [heq] at hp
      exact (List.suffix_cons ..).trans hp
    case h_2 => exact .malformed

theorem answers_statement (st : State) (s : Text) :
    Answers nestingRoom Prod.snd s (statement st s) := by
  unfold statement
  split
  case h_1 => exact List.suffix_rfl
  case h_2 c rest =>
    split
    · refine ((readsValues _).assignment nestingRoom _).bind fun p hp => ?_
      refine Answers.added.bind fun root _ => ?_
      exact hp
    · split
      · exact (answers_sectionHeader _ st rest).of_suffix (List.suffix_cons ..)
      · split
        · exact List.suffix_rfl
        · exact .malformed

theorem answers_documentFrom (n : Nat) (st : State) (s : Text) :
    Answers nestingRoom (fun _ => []) s (documentFrom n st s) := by
  induction n generalizing st s with
  | zero => exact List.nil_suffix
  | succ n ih =>
    unfold documentFrom
    have hline := (answers_statement st (skipSpace s)).of_suffix (skipSpace_suffix s)
    refine hline.bind fun p hp => ?_
    have hend : skipSpace p.2 <:+ s := (skipSpace_suffix _).trans hp
    refine Answers.bind (.found ((leaves_skipComment _).of_suffix hend)) fun t ht => ?_
    split
    case h_1 => exact List.nil_suffix
    case h_2 rest => exact (ih p.1 rest).of_suffix ((List.suffix_cons ..).trans ht)
    case h_3 => exact .malformed

/-- Line ends are joined at newlines, so a start without one stood there before. -/
theorem start_of_joinReturns {run s : Text} (hrun : ∀ c ∈ run, c ≠ '\n')
    (h : run <+: joinReturns s) : run <+: s := by
  fun_induction joinReturns s generalizing run with
  | case1 s ih =>
    cases run with
    | nil => exact List.nil_prefix
    | cons c run =>
      obtain ⟨rfl, -⟩ := List.cons_prefix_cons.1 h
      exact absurd rfl (hrun _ (List.mem_cons_self ..))
  | case2 c s _ ih =>
    cases run with
    | nil => exact List.nil_prefix
    | cons d run =>
      obtain ⟨rfl, hrest⟩ := List.cons_prefix_cons.1 h
      have hmore : ∀ c ∈ run, c ≠ '\n' := fun c hc => hrun c (List.mem_cons_of_mem _ hc)
      exact List.cons_prefix_cons.2 ⟨rfl, ih hmore hrest⟩
  | case3 => exact h

theorem part_of_joinReturns {run s : Text} (hrun : ∀ c ∈ run, c ≠ '\n')
    (h : run <:+: joinReturns s) : run <:+: s := by
  fun_induction joinReturns s with
  | case1 s ih =>
    obtain hstart | hrest := List.infix_cons_iff.1 h
    · cases run with
      | nil => exact List.nil_infix
      | cons c run =>
        obtain ⟨rfl, -⟩ := List.cons_prefix_cons.1 hstart
        exact absurd rfl (hrun _ (List.mem_cons_self ..))
    · exact (ih hrest).trans (List.IsSuffix.isInfix ⟨['\r', '\n'], rfl⟩)
  | case2 c s hreturn ih =>
    obtain hstart | hrest := List.infix_cons_iff.1 h
    · have hcons : joinReturns (c :: s) = c :: joinReturns s := joinReturns.eq_2 c s hreturn
      exact (start_of_joinReturns hrun (hcons ▸ hstart)).isInfix
    · exact (ih hrest).trans (List.suffix_cons ..).isInfix
  | case3 => exact h

theorem hasLongNumber_of_joinReturns {s : Text} (h : HasLongNumber (joinReturns s)) :
    HasLongNumber s := by
  obtain ⟨run, hrun, hdigits, hlong⟩ := h
  refine ⟨run, part_of_joinReturns ?_ hrun, hdigits, hlong⟩
  rintro c hc rfl
  obtain hdigit | hline := hdigits _ hc
  · exact absurd hdigit (by decide)
  · exact absurd hline (by decide)

theorem openings_joinReturns (s : Text) : openings (joinReturns s) = openings s := by
  fun_induction joinReturns s with
  | case1 s ih => simpa [openings] using ih
  | case2 c s _ ih => simp only [openings, List.countP_cons] at ih ⊢; rw [ih]
  | case3 => rfl

/-- A document that is refused has a reason for it in its text. -/
theorem excused_of_document {s : Text} {e : ReadError} (h : document s = .error e) :
    Excused nestingRoom s e := by
  have hanswers := answers_documentFrom ((joinReturns s).length + 1) ⟨[], [], 0⟩ (joinReturns s)
  unfold document at h
  dsimp only at h
  cases hread : documentFrom ((joinReturns s).length + 1) ⟨[], [], 0⟩ (joinReturns s) with
  | ok entries =>
    rw [hread] at h
    cases h
  | error e' =>
    rw [hread] at h hanswers
    obtain rfl : e' = e := Except.error.inj h
    cases e' with
    | malformed => trivial
    | longNumber => exact hasLongNumber_of_joinReturns hanswers
    | deepNesting =>
      have hroom : nestingRoom < 3 * openings (joinReturns s) := hanswers
      rwa [openings_joinReturns] at hroom

end Stencil.Toml

/-! ## Files -/

namespace Stencil.Settings

open Toml (HasLongNumber openings nestingRoom)

/-- A file that holds a text gives settings, or its text has a reason against it. -/
theorem read_of_text {name : Text} {bytes : List UInt8} {t : Text}
    (ht : Text.ofUtf8? bytes = some t) :
    (∃ s notice, read name (.content bytes) = .ok (s, notice)) ∨
      (∃ message, read name (.content bytes) = .error (.fault (.value message))) ∧
        HasLongNumber t ∨
      read name (.content bytes) = .error (.fault .depth) ∧ nestingRoom < 3 * openings t := by
  simp only [read, ht]
  cases hread : Toml.document t with
  | ok document => exact .inl ⟨_, _, rfl⟩
  | error e =>
    have hexcused := Toml.excused_of_document hread
    cases e with
    | malformed => exact .inl ⟨_, _, rfl⟩
    | longNumber => exact .inr (.inl ⟨⟨_, rfl⟩, hexcused⟩)
    | deepNesting => exact .inr (.inr ⟨rfl, hexcused⟩)

/-- Bytes are refused if and only if they are those of no text. -/
theorem read_eq_noBytes_iff {name : Text} {file : ConfigFile} :
    read name file = .error .noBytes ↔
      ∃ bytes, file = .content bytes ∧ ∀ t : Text, bytes ≠ t.flatMap String.utf8EncodeChar := by
  constructor
  · intro h
    match file with
    | .missing => cases h
    | .directory => cases h
    | .content bytes =>
      refine ⟨bytes, rfl, fun t ht => ?_⟩
      -- a file that holds a text is not refused for its bytes
      obtain ⟨_, _, hok⟩ | ⟨⟨_, hlong⟩, -⟩ | ⟨hdeep, -⟩ :=
        @read_of_text name bytes t (Text.ofUtf8?_eq_some_iff.2 ht)
      · cases hok.symm.trans h
      · cases hlong.symm.trans h
      · cases hdeep.symm.trans h
  · rintro ⟨bytes, rfl, hbytes⟩
    have hnone : Text.ofUtf8? bytes = .none :=
      Option.eq_none_iff_forall_ne_some.2 fun t ht => hbytes t (Text.ofUtf8?_eq_some_iff.1 ht)
    rw [read, hnone]

/-- What keeps a file from being read: its bytes are no text, or its text has a reason. -/
theorem read_outcomes (name : Text) (file : ConfigFile) :
    (∃ s notice, read name file = .ok (s, notice)) ∨ read name file = .error .noBytes ∨
      ∃ t : Text, file = .content (t.flatMap String.utf8EncodeChar) ∧
        ((∃ message, read name file = .error (.fault (.value message))) ∧ HasLongNumber t ∨
          read name file = .error (.fault .depth) ∧ nestingRoom < 3 * openings t) := by
  match file with
  | .missing => exact .inl ⟨_, _, rfl⟩
  | .directory => exact .inl ⟨_, _, rfl⟩
  | .content bytes =>
    cases ht : Text.ofUtf8? bytes with
    | none => exact .inr (.inl (by rw [read, ht]))
    | some t =>
      obtain rfl := Text.ofUtf8?_eq_some_iff.1 ht
      exact (read_of_text ht).imp id fun hreason => .inr ⟨t, rfl, hreason⟩

/-- A file that is read is loaded if no line of its notice is refused, and else one that is refused
is the error. -/
theorem load_cases {name : Text} {file : ConfigFile} {s : Settings} {notice : Option ConfigNotice}
    (c : Console) (path : Text) (h : read name file = .ok (s, notice)) :
    load c name path file = .ok (s, notice) ∧
        (∀ line ∈ shown c name path file notice, c.refuses line = false) ∨
      ∃ line ∈ shown c name path file notice, c.refuses line = true ∧
        load c name path file = .error (.markup line) := by
  rw [load_of_read h]
  obtain ⟨hshown, hall⟩ | ⟨line, hline, hrefuses, hshown⟩ :=
    showLines_cases c (shown c name path file notice)
  · exact .inl ⟨by rw [hshown]; rfl, hall⟩
  · exact .inr ⟨line, hline, hrefuses, by rw [hshown]; rfl⟩

/-- A file gives settings, and none of its own where there is a notice; only bytes that are not a
text, overlong numbers, brackets without room for them and notices that the console does not show
keep it from that. Bytes that are not a text always do, and so does a line of a notice that is
refused. -/
theorem load_outcomes (c : Console) (name path : Text) (file : ConfigFile) :
    let run := load c name path file
    (run = .error .noBytes ↔
      ∃ bytes, file = .content bytes ∧ ∀ t : Text, bytes ≠ t.flatMap String.utf8EncodeChar) ∧
    (∀ s notice, read name file = .ok (s, notice) →
      (run = .ok (s, notice) ↔ ∀ line ∈ shown c name path file notice, c.refuses line = false)) ∧
    ((∃ s notice, run = .ok (s, notice) ∧ (notice.isSome = true → s = .none)) ∨
      run = .error .noBytes ∨
      (∃ t : Text, file = .content (t.flatMap String.utf8EncodeChar) ∧
        ((∃ message, run = .error (.fault (.value message))) ∧ HasLongNumber t ∨
          run = .error (.fault .depth) ∧ nestingRoom < 3 * openings t)) ∨
      ∃ n line, read name file = .ok (.none, some n) ∧
        line ∈ n.lines name path (c.detail path file n) ∧ c.refuses line = true ∧
        run = .error (.markup line)) := by
  intro run
  have hok {s : Settings} {notice : Option ConfigNotice}
      (hread : read name file = .ok (s, notice)) :
      (∃ s notice, run = .ok (s, notice) ∧ (notice.isSome = true → s = .none)) ∨
        ∃ n line, read name file = .ok (.none, some n) ∧
          line ∈ n.lines name path (c.detail path file n) ∧ c.refuses line = true ∧
          run = .error (.markup line) := by
    obtain ⟨hload, -⟩ | ⟨line, hline, hrefuses, hload⟩ := load_cases c path hread
    · refine .inl ⟨s, notice, hload, fun hsome => ?_⟩
      obtain ⟨n, rfl⟩ := Option.isSome_iff_exists.1 hsome
      exact eq_none_of_read hread
    · cases notice with
      | none => exact absurd hline List.not_mem_nil
      | some n =>
        obtain rfl := eq_none_of_read hread
        exact .inr ⟨n, line, hread, hline, hrefuses, hload⟩
  refine ⟨?_, fun s notice hread => ?_, ?_⟩
  · rw [← read_eq_noBytes_iff]
    refine ⟨fun h => ?_, load_of_read_eq_error⟩
    -- a console refuses lines, and no bytes
    rcases hread : read name file with p | ⟨s, notice⟩
    · exact congrArg Except.error (Except.error.inj ((load_of_read_eq_error hread).symm.trans h))
    · obtain ⟨hload, -⟩ | ⟨line, -, -, hload⟩ := load_cases c path hread
      · cases hload.symm.trans h
      · cases hload.symm.trans h
  · obtain ⟨hload, hall⟩ | ⟨line, hline, hrefuses, hload⟩ := load_cases c path hread
    · exact ⟨fun _ => hall, fun _ => hload⟩
    · refine ⟨fun h => ?_, fun h => ?_⟩
      · cases hload.symm.trans h
      · exact absurd (h line hline) (by simp [hrefuses])
  · obtain ⟨s, notice, hread⟩ | hbytes | ⟨t, ht, ⟨⟨message, hread⟩, hlong⟩ | ⟨hread, hdeep⟩⟩ :=
      read_outcomes name file
    · obtain hload | hrefused := hok hread
      · exact .inl hload
      · exact .inr (.inr (.inr hrefused))
    · exact .inr (.inl (load_of_read_eq_error hbytes))
    · exact .inr (.inr (.inl ⟨t, ht, .inl ⟨⟨message, load_of_read_eq_error hread⟩, hlong⟩⟩))
    · exact .inr (.inr (.inl ⟨t, ht, .inr ⟨load_of_read_eq_error hread, hdeep⟩⟩))

/-- A byte that starts no character keeps a file from giving settings. -/
theorem load_lone_byte : load .plain ['s'] ['p'] (.content [0xFF]) = .error .noBytes := rfl

end Stencil.Settings
