import Mathlib.Data.List.Chain
import Stencil.Proofs.Basic
import Stencil.Render.Call

/-!
# Calls of a transformer

What a transformer is asked while a template is rendered. A record of its calls (`Transcript`) has
one call for each block, from the first one on and in order, each in the store in which the texts of
the one before were listed, and none after a call that comes to nothing. Main statement:
`Call.render_transcript`, a render call has such a record, which has all that it learns from its
transformer; it makes no calls at all unless the template has been parsed as a whole.
-/

namespace Stencil

open Template (Segment)

/-! ## Invocations -/

/-- One call of a transformer: the text and the context that it is given, the store at that time,
what it answers, and the store that it leaves. -/
structure Invocation where
  text : Text
  context : Context
  before : Store
  answer : Except Problem Value
  after : Store

namespace Invocation

/-- The transformer answers as the call says. -/
def IsOf (t : Transformer) (i : Invocation) : Prop :=
  t.apply i.text i.context i.before = (i.answer, i.after)

/-- The texts that the answer comes to, and the store in which they are listed. A call that raises
comes to nothing, and so does one whose answer has no texts. -/
def texts (na : Text) (i : Invocation) : Except Problem (List Text) × Store :=
  (Run.ofExcept i.answer >>= fun v => Rendering.ofFaults (vectorTexts na v)) i.after

theorem texts_of_error {i : Invocation} {p : Problem} (na : Text) (h : i.answer = .error p) :
    i.texts na = (.error p, i.after) := by
  rw [texts, h]
  rfl

end Invocation

/-- The text of a block. -/
def Template.Segment.blockText? : Segment → Option Text
  | .literal _ _ => none
  | .expression text _ _ => some text

/-- The calls of a transformer for blocks with the given texts, from the store `s` to the store
`s'`. -/
structure Transcript (t : Transformer) (c : Context) (na : Text) (texts : List Text) (s : Store)
    (calls : List Invocation) (s' : Store) : Prop where
  /-- They are calls of the transformer. -/
  isOf : ∀ i ∈ calls, i.IsOf t
  /-- All are given the same context. -/
  context : ∀ i ∈ calls, i.context = c
  /-- The first blocks are called for in order, each once. -/
  order : calls.map (·.text) <+: texts
  /-- Nothing happens before the first call. -/
  start : ∀ i ∈ calls.head?, i.before = s
  /-- Between two calls the texts of the first are listed, and nothing else happens. -/
  next : calls.IsChain fun i j => ∃ piece, i.texts na = (.ok piece, j.before)
  /-- After the last call its texts are listed, and nothing else happens. -/
  last : ∀ i ∈ calls.getLast?, (i.texts na).2 = s'
  /-- Nothing happens without a call. -/
  idle : calls = [] → s' = s
  /-- All blocks are called for, unless the last call comes to nothing. -/
  stop : calls.map (·.text) = texts ∨ ∃ i ∈ calls.getLast?, ∃ p, i.texts na = (.error p, s')

namespace Transcript

variable {t : Transformer} {c : Context} {na : Text} {texts : List Text} {s s' : Store}
  {calls : List Invocation}

/-- A call that raises is the last one. -/
theorem getLast?_of_error (h : Transcript t c na texts s calls s') {i : Invocation} {p : Problem}
    (hi : i ∈ calls) (hp : i.answer = .error p) : calls.getLast? = some i := by
  obtain ⟨first, rest, rfl⟩ := List.append_of_mem hi
  cases rest with
  | nil => simp
  | cons j rest =>
    have hchain : (i :: j :: rest).IsChain fun i j => ∃ piece, i.texts na = (.ok piece, j.before) :=
      h.next.right_of_append
    obtain ⟨⟨piece, hpiece⟩, -⟩ := List.isChain_cons_cons.1 hchain
    rw [Invocation.texts_of_error na hp] at hpiece
    exact absurd hpiece.symm Run.ok_ne_error

/-- There are no calls for no blocks. -/
theorem nil : Transcript t c na [] s [] s where
  isOf := by simp
  context := by simp
  order := List.prefix_rfl
  start := by simp
  next := List.isChain_nil
  last := by simp
  idle _ := rfl
  stop := .inl rfl

/-- A call that comes to nothing is all that happens. -/
theorem stopped {i : Invocation} {p : Problem} (hi : i.IsOf t) (hc : i.context = c)
    (hs : i.before = s) (htexts : i.texts na = (.error p, s')) :
    Transcript t c na (i.text :: texts) s [i] s' where
  isOf := by simpa using hi
  context := by simpa using hc
  order := List.prefix_append [i.text] texts
  start := by simpa using hs
  next := List.isChain_singleton i
  last := by simp [htexts]
  idle := by simp
  stop := .inr ⟨i, by simp, p, htexts⟩

/-- After a call whose texts are listed come those for the blocks that are left. -/
theorem cons {i : Invocation} {piece : List Text} {s₁ : Store} (hi : i.IsOf t) (hc : i.context = c)
    (hs : i.before = s) (htexts : i.texts na = (.ok piece, s₁))
    (h : Transcript t c na texts s₁ calls s') :
    Transcript t c na (i.text :: texts) s (i :: calls) s' where
  isOf := List.forall_mem_cons.2 ⟨hi, h.isOf⟩
  context := List.forall_mem_cons.2 ⟨hc, h.context⟩
  order := (List.prefix_cons_inj i.text).2 h.order
  start := by simpa using hs
  next := List.isChain_cons.2 ⟨fun j hj => ⟨piece, by rw [htexts, h.start j hj]⟩, h.next⟩
  last j hj := by
    obtain ⟨hnone, rfl⟩ | hj := mem_getLast?_cons_iff.1 hj
    · rw [htexts, h.idle hnone]
    · exact h.last j hj
  idle := by simp
  stop := by
    obtain hall | ⟨j, hj, hstop⟩ := h.stop
    · exact .inl (congrArg (i.text :: ·) hall)
    · exact .inr ⟨j, List.mem_getLast?_cons hj, hstop⟩

end Transcript

/-! ## Segments -/

/-- The texts of segments whose blocks a transformer is given with a context. -/
def segmentsTexts (t : Transformer) (c : Context) (na : Text) (segments : List Segment) :
    Rendering (List (List Text)) :=
  segments.mapM (segmentTexts (fun text => t.apply text c) na)

section

variable {t : Transformer} {c : Context} {na : Text} {segments : List Segment}
  {pieces : Except Problem (List (List Text))} {s s' : Store}

/-- A literal text is there without a call. -/
theorem segmentsTexts_literal (text raw : Text)
    (hpieces : segmentsTexts t c na segments s = (pieces, s')) :
    segmentsTexts t c na (.literal text raw :: segments) s =
      (pieces.map ([text] :: ·), s') := by
  rw [segmentsTexts, List.mapM_cons]
  exact (Run.bind_of_ok rfl).trans (Run.bind_pure_of_eq ([text] :: ·) hpieces)

namespace Invocation.IsOf

variable {i : Invocation} (hi : i.IsOf t) (start stop : Nat)
include hi

/-- A block has the texts of the call that is made for it. -/
theorem segmentTexts_eq (na : Text) :
    segmentTexts (fun text => t.apply text i.context) na (.expression i.text start stop) i.before =
      i.texts na := by
  have hcall : t.apply i.text i.context i.before = (i.answer, i.after) := hi
  rw [segmentTexts, texts, Run.bind_apply, Run.bind_apply, hcall]
  rfl

/-- Nothing is asked after a call that comes to nothing. -/
theorem segmentsTexts_of_error {p : Problem} (h : i.texts na = (.error p, s')) :
    segmentsTexts t i.context na (.expression i.text start stop :: segments) i.before =
      (.error p, s') := by
  rw [segmentsTexts, List.mapM_cons]
  exact Run.bind_of_error ((hi.segmentTexts_eq start stop na).trans h)

theorem segmentsTexts_of_ok {piece : List Text} (h : i.texts na = (.ok piece, s))
    (hpieces : segmentsTexts t i.context na segments s = (pieces, s')) :
    segmentsTexts t i.context na (.expression i.text start stop :: segments) i.before =
      (pieces.map (piece :: ·), s') := by
  rw [segmentsTexts, List.mapM_cons]
  exact (Run.bind_of_ok ((hi.segmentTexts_eq start stop na).trans h)).trans
    (Run.bind_pure_of_eq (piece :: ·) hpieces)

end Invocation.IsOf

end

/-- The texts of segments are listed along the calls for their blocks, which end where one comes to
nothing. Another transformer that answers these calls alike gives the same texts. -/
theorem exists_transcript (t : Transformer) (c : Context) (na : Text) (segments : List Segment)
    (s : Store) :
    ∃ calls pieces s', Transcript t c na (segments.filterMap Segment.blockText?) s calls s' ∧
      segmentsTexts t c na segments s = (pieces, s') ∧
      (∀ i ∈ calls.getLast?, ∀ p, i.texts na = (.error p, s') → pieces = .error p) ∧
      ∀ t', (∀ i ∈ calls, i.IsOf t') → segmentsTexts t' c na segments s = (pieces, s') := by
  induction segments generalizing s with
  | nil => exact ⟨[], .ok [], s, .nil, rfl, by simp, fun _ _ => rfl⟩
  | cons segment segments ih =>
    cases segment with
    | literal text raw =>
      obtain ⟨calls, pieces, s', htranscript, hpieces, hstop, halike⟩ := ih s
      refine ⟨calls, _, s', htranscript, segmentsTexts_literal text raw hpieces,
        fun i hi p hp => ?_, fun t' ht' => segmentsTexts_literal text raw (halike t' ht')⟩
      rw [hstop i hi p hp]
      rfl
    | expression text start stop =>
      let i : Invocation := ⟨text, c, s, (t.apply text c s).1, (t.apply text c s).2⟩
      have hi : i.IsOf t := rfl
      rcases htexts : i.texts na with ⟨p | piece, s₁⟩
      · -- the call comes to nothing
        have hrun {t : Transformer} (hi : i.IsOf t) :
            segmentsTexts t c na (.expression text start stop :: segments) s = (.error p, s₁) :=
          hi.segmentsTexts_of_error start stop htexts
        refine ⟨[i], .error p, s₁, .stopped hi rfl rfl htexts, hrun hi, fun j hj p' hp' => ?_,
          fun t' ht' => hrun (ht' i (List.mem_singleton_self i))⟩
        obtain rfl : i = j := by simpa using hj
        obtain rfl := Except.error.inj (Prod.mk.inj (htexts.symm.trans hp')).1
        rfl
      · obtain ⟨calls, pieces, s', htranscript, hpieces, hstop, halike⟩ := ih s₁
        refine ⟨i :: calls, _, s', .cons hi rfl rfl htexts htranscript,
          hi.segmentsTexts_of_ok start stop htexts hpieces, fun j hj p hp => ?_,
          fun t' ht' => (ht' i (List.mem_cons_self ..)).segmentsTexts_of_ok start stop htexts
            (halike t' fun j hj => ht' j (List.mem_cons_of_mem i hj))⟩
        obtain ⟨-, rfl⟩ | hj := mem_getLast?_cons_iff.1 hj
        · -- the texts of the last call are listed already
          exact absurd (htexts.symm.trans hp) Run.ok_ne_error
        · rw [hstop j hj p hp]
          rfl

/-! ## Render calls -/

/-- A transformer without a name, such as a plain function, is used as it is given. -/
theorem Transformer.adapted_of_name?_eq_none {t : Transformer} (h : t.name? = none) (l : Layout) :
    t.adapted l = t := by
  cases t with
  | function f => rfl
  | callable v => rfl
  | _ => exact absurd h (by simp [name?])

namespace Call

/-- What a call settles before its transformer is asked anything: the variables have names that they
can have, the template is parsed, and there is a context. It goes on with the names as they then are
and with the segments of the template. -/
def opening (c : Call) (o : Options) (s : Store) : Except Problem (Context × List Segment) := do
  c.refuse parameters
  let segments ← (o.layout.prepare c.template).mapError .parse
  let context ← c.context.toContext.mapError .context
  let bound ← (context.bind c.names).mapError .argument
  return (bound.freeze s, segments)

variable {c : Call} {options : OptionsSource} {o : Options} {t : Transformer}
  {snapshot : Context} {segments : List Segment} {s : Store}

/-- A template that cannot be parsed stops a call. -/
theorem exists_of_prepare_eq_error {e : Template.ParseError}
    (h : o.layout.prepare c.template = .error e) : ∃ p, c.opening o s = .error p := by
  rw [opening, h]
  cases c.refuse parameters with
  | error p => exact ⟨p, rfl⟩
  | ok _ => exact ⟨.parse e, rfl⟩

/-- What is left to settle once there are a template and a context: the variables of the call. -/
theorem opening_eq_map {context : Context} (hnames : c.refuse parameters = .ok ())
    (hsegments : o.layout.prepare c.template = .ok segments)
    (hcontext : c.context.toContext = .ok context) :
    c.opening o s =
      ((context.bind c.names).mapError .argument).map fun bound => (bound.freeze s, segments) := by
  rw [opening, hnames, hsegments, hcontext]
  cases hbound : context.bind c.names <;> simp [Except.mapError, bind, Except.bind, hbound] <;> rfl

theorem opening_eq_ok_iff :
    c.opening o s = .ok (snapshot, segments) ↔
      c.refuse parameters = .ok () ∧ o.layout.prepare c.template = .ok segments ∧
        ∃ context bound, c.context.toContext = .ok context ∧ context.bind c.names = .ok bound ∧
          snapshot = bound.freeze s := by
  constructor
  · intro h
    cases hnames : c.refuse parameters with
    | error p =>
      rw [opening, hnames] at h
      cases h
    | ok _ =>
    cases hsegments : o.layout.prepare c.template with
    | error e =>
      rw [opening, hnames, hsegments] at h
      cases h
    | ok found =>
    cases hcontext : c.context.toContext with
    | error e =>
      rw [opening, hnames, hsegments, hcontext] at h
      cases h
    | ok context =>
    rw [opening_eq_map hnames hsegments hcontext] at h
    cases hbound : context.bind c.names with
    | error x =>
      rw [hbound] at h
      cases h
    | ok bound =>
      rw [hbound] at h
      cases h
      exact ⟨rfl, rfl, context, bound, rfl, hbound, rfl⟩
  · rintro ⟨hnames, hsegments, context, bound, hcontext, hbound, rfl⟩
    rw [opening_eq_map hnames hsegments hcontext, hbound]
    rfl

/-- A call settles all but its options and its transformer at once. -/
theorem render_eq_bind (c : Call) (options : OptionsSource) (s : Store) :
    c.render options s =
      (Run.ofExcept (c.refuse parameters) >>= fun _ =>
        Run.ofExcept options.toOptions >>= fun o =>
        Run.ofExcept (c.opening o s) >>= fun settled =>
        Run.ofExcept (c.registry.resolve s (some o.layout) o.transformer.given) >>= fun t =>
        renderSegments (fun text => t.apply text settled.1) o.layout settled.2) s := by
  have hget {α : Type} (f : Store → Rendering α) : (get >>= f) s = f s s := rfl
  rw [render]
  cases hnames : c.refuse parameters with
  | error p => rfl
  | ok _ =>
  rw [Run.ofExcept_ok_bind, Run.ofExcept_ok_bind]
  cases options.toOptions with
  | error p => rfl
  | ok o =>
  rw [Run.ofExcept_ok_bind, Run.ofExcept_ok_bind, rows]
  cases hsegments : o.layout.prepare c.template with
  | error e =>
    rw [opening, hnames, hsegments]
    rfl
  | ok segments =>
  cases hcontext : c.context.toContext with
  | error e =>
    rw [opening, hnames, hsegments, hcontext]
    rfl
  | ok context =>
  rw [opening_eq_map hnames hsegments hcontext, Except.mapError, Run.ofExcept_ok_bind,
    Except.mapError, Run.ofExcept_ok_bind]
  cases context.bind c.names with
  | error x => rfl
  | ok bound =>
  rw [Except.mapError, Run.ofExcept_ok_bind, hget, hget]
  rfl

section

variable (ho : options.toOptions = .ok o)
  (ht : c.registry.resolve s (some o.layout) o.transformer.given = .ok t)
include ho ht

/-- A call settles all else before it asks its transformer for the texts of blocks. -/
theorem render_eq :
    c.render options s =
      (Run.ofExcept (c.opening o s) >>= fun settled =>
        renderSegments (fun text => t.apply text settled.1) o.layout settled.2) s := by
  rw [render_eq_bind, ho]
  cases hnames : c.refuse parameters with
  | error p =>
    rw [opening, hnames]
    rfl
  | ok _ =>
    rw [Run.ofExcept_ok_bind, Run.ofExcept_ok_bind, ht]
    rfl

theorem render_of_opening_eq_error {p : Problem} (h : c.opening o s = .error p) :
    c.render options s = (.error p, s) :=
  (render_eq ho ht).trans (Run.bind_of_error (congrArg (·, s) h))

/-- Rows are put together when all texts are listed. -/
theorem render_of_opening_eq_ok {pieces : Except Problem (List (List Text))} {s' : Store}
    (h : c.opening o s = .ok (snapshot, segments))
    (hpieces : segmentsTexts t snapshot o.layout.na segments s = (pieces, s')) :
    c.render options s = (Run.ofExcept pieces >>= assemble o.layout.broadcast) s' := by
  rw [render_eq ho ht, h, Run.ofExcept_ok_bind]
  exact Run.bind_of_eq (assemble o.layout.broadcast) hpieces

end

/-- What a call makes of its transformer, which is called for blocks of the parsed template in order
and once each, however many rows there are, and always with the names as they stand at the start.
The rows are put together from what the calls come to. There are no calls after one that raises, and
none at all if the call fails before, as it does if its template cannot be parsed: another
transformer that answers the calls alike gives the same. -/
theorem render_transcript (ho : options.toOptions = .ok o)
    (ht : c.registry.resolve s (some o.layout) o.transformer.given = .ok t) :
    let run := c.render options s
    let runWith := fun t' => c.render (.options (o.withTransformer t')) s
    (∀ e, o.layout.prepare c.template = .error e → ∃ p, c.opening o s = .error p) ∧
      (∀ p, c.opening o s = .error p →
        run = (.error p, s) ∧ ∀ t', t'.name? = none → runWith t' = (.error p, s)) ∧
      ∀ snapshot segments, c.opening o s = .ok (snapshot, segments) →
        let blocks := segments.filterMap Segment.blockText?
        o.layout.prepare c.template = .ok segments ∧
          ∃ calls pieces s', Transcript t snapshot o.layout.na blocks s calls s' ∧
            run = (Run.ofExcept pieces >>= assemble o.layout.broadcast) s' ∧
            (∀ i ∈ calls, ∀ p, i.answer = .error p →
              calls.getLast? = some i ∧ pieces = .error p) ∧
            (∀ texts, pieces = .ok texts → calls.map (·.text) = blocks) ∧
            ∀ t', t'.name? = none → (∀ i ∈ calls, i.IsOf t') → runWith t' = run := by
  intro run runWith
  have hresolve {t' : Transformer} (ht' : t'.name? = none) :
      c.registry.resolve s (some o.layout) (.transformer t') = .ok t' :=
    congrArg Except.ok (Transformer.adapted_of_name?_eq_none ht' o.layout)
  refine ⟨fun e => exists_of_prepare_eq_error, fun p hp => ⟨?_, fun t' ht' => ?_⟩,
    fun snapshot segments hopening => ⟨(opening_eq_ok_iff.1 hopening).2.1, ?_⟩⟩
  · exact render_of_opening_eq_error ho ht hp
  · exact render_of_opening_eq_error (o := o.withTransformer t') rfl (hresolve ht') hp
  · obtain ⟨calls, pieces, s', htranscript, hpieces, hstop, halike⟩ :=
      exists_transcript t snapshot o.layout.na segments s
    have hrun : run = (Run.ofExcept pieces >>= assemble o.layout.broadcast) s' :=
      render_of_opening_eq_ok ho ht hopening hpieces
    refine ⟨calls, pieces, s', htranscript, hrun, fun i hi p hp => ?_, fun texts htexts => ?_,
      fun t' ht' hcalls => ?_⟩
    · -- no call comes after one that raises, so the texts fail as its answer does
      have hlast := htranscript.getLast?_of_error hi hp
      have hnothing : i.texts o.layout.na = (.error p, s') := by
        rw [Invocation.texts_of_error _ hp, ← htranscript.last i hlast,
          Invocation.texts_of_error _ hp]
      exact ⟨hlast, hstop i hlast p hnothing⟩
    · obtain hall | ⟨i, hi, p, hnothing⟩ := htranscript.stop
      · exact hall
      · cases htexts.symm.trans (hstop i hi p hnothing)
    · rw [hrun]
      exact render_of_opening_eq_ok (o := o.withTransformer t') rfl (hresolve ht') hopening
        (halike t' hcalls)

/-- A function that lists characters is called twice, though there are three rows. -/
theorem render_transcript_characters :
    let characters := fun (text : Text) (_ : Context) =>
      (Run.newList (text.map fun x => .text [x]) : Rendering Value)
    let t : Transformer := .function characters
    let c : Call := ⟨.installed, .whole "\x7ba\x7d\x7bbcd\x7d".toList, .nothing, []⟩
    let options := OptionsSource.options (Options.standard.withTransformer t)
    let snapshot := Context.empty.freeze .empty
    let blocks := ["a".toList, "bcd".toList]
    (c.render options .empty).1 =
        .ok ["ab".toList, "ac".toList, "ad".toList] ∧
      ∃ calls s', Transcript t snapshot Layout.standard.na blocks .empty calls s' ∧
        calls.map (·.text) = blocks := by
  intro characters t c options snapshot blocks
  have hrows : (c.render options .empty).1 =
      .ok ["ab".toList, "ac".toList, "ad".toList] := by
    apply eq_ok_of_match
    decide +kernel
  have hsegments : Layout.standard.prepare c.template =
      .ok [.expression "a".toList 0 3, .expression "bcd".toList 3 8] := by
    apply eq_ok_of_match
    decide +kernel
  have hopening : c.opening (Options.standard.withTransformer t) .empty =
      .ok (snapshot, [.expression "a".toList 0 3, .expression "bcd".toList 3 8]) :=
    opening_eq_ok_iff.2 ⟨rfl, hsegments, .empty, .empty, rfl, rfl, rfl⟩
  have ho : options.toOptions = .ok (Options.standard.withTransformer t) := rfl
  obtain ⟨-, -, hcalls⟩ := render_transcript (c := c) (s := .empty) ho rfl
  obtain ⟨-, calls, pieces, s', htranscript, hrun, -, hall, -⟩ := hcalls _ _ hopening
  refine ⟨hrows, calls, s', htranscript, ?_⟩
  cases pieces with
  | error p =>
    rw [hrun] at hrows
    cases hrows
  | ok texts => exact hall texts rfl

end Call

end Stencil
