import Stencil.Template.Block

/-!
# What the end of a block depends on

The close search looks ahead: to the second and third character of a quote, to the end of a comment
and to the end of a delimiter. Main statement: `findClose_swap`, what follows the close delimiter of
a block may be replaced by any text in front of which no delimiter newly starts. Two kinds of
replacement are of that sort: cutting the text short (`noNewStart_of_isPrefix`), and any at all when
the delimiters are single characters (`noNewStart_singleton`).
-/

namespace Stencil

namespace Text

/-! ## Starts of a text -/

theorem after?_eq_none_iff {p s : Text} : after? p s = none ↔ ¬ p <+: s := by
  constructor
  · rintro h ⟨r, rfl⟩
    rw [after?_eq_some_iff.2 rfl] at h
    exact absurd h (by simp)
  · intro h
    cases hr : after? p s with
    | none => rfl
    | some r => exact absurd ⟨r, (after?_eq_some_iff.1 hr).symm⟩ h

theorem startsWith_iff {p s : Text} : startsWith p s = true ↔ p <+: s := by
  cases h : after? p s with
  | none => simp [startsWith, h, after?_eq_none_iff.1 h]
  | some r => simp [startsWith, after?_eq_some_iff.1 h]

/-- Whether a text starts with `p` is settled by its first `p.length` characters. -/
theorem isPrefix_append_congr {p u : Text} (h : p.length ≤ u.length) (r t : Text) :
    p <+: u ++ r ↔ p <+: u ++ t := by
  have hr : p <+: u ++ r ↔ p <+: u :=
    ⟨fun hp => List.prefix_of_prefix_length_le hp (List.prefix_append u r) h,
      fun hp => hp.trans (List.prefix_append u r)⟩
  have ht : p <+: u ++ t ↔ p <+: u :=
    ⟨fun hp => List.prefix_of_prefix_length_le hp (List.prefix_append u t) h,
      fun hp => hp.trans (List.prefix_append u t)⟩
  rw [hr, ht]

/-- In front of `t`, the text `p` starts only where it also starts in front of `r`. -/
def NoNewStart (p r t : Text) : Prop := ∀ u : Text, u ≠ [] → p <+: u ++ t → p <+: u ++ r

/-- Nothing starts newly in front of less text. -/
theorem noNewStart_of_isPrefix (p : Text) {r t : Text} (h : t <+: r) : NoNewStart p r t := by
  intro u _ hp
  exact hp.trans ((List.prefix_append_right_inj u).2 h)

/-- A single character starts where it stands, whatever follows. -/
theorem noNewStart_singleton (a : Char) (r t : Text) : NoNewStart [a] r t := by
  intro u hu hp
  have hlen : [a].length ≤ u.length := List.length_pos_iff.2 hu
  exact (isPrefix_append_congr hlen r t).2 hp

end Text

namespace Template

open Text

/-! ## Quoted spans -/

theorem untilUnescaped?_cons {stop : Text} {c : Char} (hc : c ≠ '\\') (s : Text) :
    untilUnescaped? stop (c :: s) =
      match after? stop (c :: s) with
      | some rest => some ([], rest)
      | none => (untilUnescaped? stop s).map fun (body, rest) => (c :: body, rest) :=
  untilUnescaped?.eq_4 stop c s hc

/-- The search for a terminator reads no further than the terminator. -/
theorem untilUnescaped?_swap {stop s body rest : Text} (hstop : stop ≠ [])
    (h : untilUnescaped? stop s = some (body, rest)) (t : Text) :
    untilUnescaped? stop (body ++ stop ++ t) = some (body, t) := by
  fun_induction untilUnescaped? stop s generalizing body rest with
  | case1 => simp at h
  | case2 => simp at h
  | case3 c s ih =>
    obtain ⟨⟨b, r⟩, hb, heq⟩ := Option.map_eq_some_iff.1 h
    simp only [Prod.mk.injEq] at heq
    obtain ⟨rfl, rfl⟩ := heq
    have hsw := ih hb
    rw [List.append_assoc] at hsw
    simp [untilUnescaped?, hsw]
  | case4 c s hc r hr =>
    simp only [Option.some.injEq, Prod.mk.injEq] at h
    obtain ⟨rfl, rfl⟩ := h
    -- the terminator is not empty, so it starts with the character it was found at
    obtain ⟨a, p, rfl⟩ := List.exists_cons_of_ne_nil hstop
    obtain rfl : c = a := by
      have := after?_eq_some_iff.1 hr
      simp only [List.cons_append, List.cons.injEq] at this
      exact this.1
    have hat : after? (c :: p) (c :: (p ++ t)) = some t := after?_append (c :: p) t
    rw [List.nil_append, List.cons_append, untilUnescaped?_cons hc, hat]
  | case5 c s hc hr ih =>
    obtain ⟨⟨b, r⟩, hb, heq⟩ := Option.map_eq_some_iff.1 h
    simp only [Prod.mk.injEq] at heq
    obtain ⟨rfl, rfl⟩ := heq
    -- the terminator found later is long enough to settle that none starts here
    have hnone : after? stop (c :: (b ++ stop ++ t)) = none := by
      rw [after?_eq_none_iff] at hr ⊢
      rw [untilUnescaped?_append hb] at hr
      have hlen : stop.length ≤ (c :: (b ++ stop)).length := by
        simp only [List.length_cons, List.length_append]
        omega
      exact fun hp => hr ((isPrefix_append_congr hlen t r).1 hp)
    rw [List.cons_append, List.cons_append, untilUnescaped?_cons hc, hnone, ih hb]
    rfl

theorem terminator_congr {u : Text} (h : 2 ≤ u.length) (q : Char) (r t : Text) :
    terminator q (u ++ r) = terminator q (u ++ t) := by
  have hq := isPrefix_append_congr (p := [q, q]) h r t
  simp only [terminator, startsWith_iff, hq]

/-- A quoted span stays one when the text from the second character after it on is replaced: the
character right after an empty span tells two quotes from three. -/
theorem quoted?_swap {q d : Char} {s span r : Text} (h : quoted? q s = some (span, d :: r))
    (t : Text) : ∃ w, span = q :: w ∧ quoted? q (w ++ d :: t) = some (span, d :: t) := by
  have happ := quoted?_append h
  obtain ⟨⟨body, rest⟩, hb, heq⟩ := Option.map_eq_some_iff.1 h
  simp only [Prod.mk.injEq] at heq
  obtain ⟨rfl, rfl⟩ := heq
  have hpos : 0 < (terminator q s).length := List.length_pos_iff.2 (terminator_ne_nil q s)
  obtain ⟨w, hw⟩ : ∃ w, terminator q s ++ body ++ terminator q s = q :: w := by
    cases hspan : terminator q s ++ body ++ terminator q s with
    | nil => simp [terminator_ne_nil] at hspan
    | cons a w =>
      rw [hspan, List.cons_append, List.cons.injEq] at happ
      exact ⟨w, by rw [happ.1]⟩
  refine ⟨w, hw, ?_⟩
  rw [hw, List.cons_append, List.cons.injEq] at happ
  -- after the first quote an empty span has one more character, which is why `d` has to stay
  have hlen : 2 ≤ (w ++ [d]).length := by
    have := congrArg List.length hw
    simp only [List.length_append, List.length_cons, List.length_nil] at this ⊢
    omega
  have hstop : terminator q (w ++ d :: t) = terminator q s := by
    have := terminator_congr hlen q t r
    simpa [happ.2] using this
  have hdrop : (q :: (w ++ d :: t)).drop (terminator q s).length =
      body ++ terminator q s ++ d :: t := by
    rw [← List.cons_append, ← hw, List.append_assoc, List.append_assoc, List.drop_left,
      List.append_assoc]
  rw [quoted?, hstop, hdrop, untilUnescaped?_swap (terminator_ne_nil q s) hb]
  rfl

/-! ## Pieces -/

/-- A comment stays one when the text from its newline on is replaced. -/
theorem takeWhile_newline_swap {w r : Text} {d : Char}
    (hw : (w ++ d :: r).takeWhile (· ≠ '\n') = w)
    (hd : (w ++ d :: r).dropWhile (· ≠ '\n') = d :: r) (t : Text) :
    (w ++ d :: t).takeWhile (· ≠ '\n') = w ∧ (w ++ d :: t).dropWhile (· ≠ '\n') = d :: t := by
  have hall : ∀ a ∈ w, decide (a ≠ '\n') = true := by
    have := List.all_takeWhile (l := w ++ d :: r) (p := (· ≠ '\n'))
    rw [hw] at this
    exact List.all_eq_true.1 this
  have hstop : decide (d ≠ '\n') = false := by
    have := List.head?_dropWhile_not (· ≠ '\n') (w ++ d :: r)
    rw [hd] at this
    exact this
  constructor
  · rw [List.takeWhile_append_of_pos hall, List.takeWhile_cons_of_neg (by simp [hstop]),
      List.append_nil]
  · rw [List.dropWhile_append_of_pos hall, List.dropWhile_cons_of_neg (by simp [hstop])]

namespace Piece

/-- The text that a piece was read from. -/
def span (rules : BlockRules) : Piece → Text
  | .quoted span _ | .comment span _ => span
  | .openQuote => []
  | .opening _ => rules.opening
  | .closing _ => rules.closing
  | .other c _ => [c]

/-- The text after a piece. -/
def rest : Piece → Text
  | .quoted _ rest | .comment _ rest | .opening rest | .closing rest | .other _ rest => rest
  | .openQuote => []

/-- A piece with another text after it. -/
def withRest (t : Text) : Piece → Piece
  | .quoted span _ => .quoted span t
  | .comment span _ => .comment span t
  | .openQuote => .openQuote
  | .opening _ => .opening t
  | .closing _ => .closing t
  | .other c _ => .other c t

/-- How many blocks are open inside the outermost one after a piece. -/
def depthAfter (depth : Nat) : Piece → Nat
  | .opening _ => depth + 1
  | .closing _ => depth - 1
  | _ => depth

/-- Whether a piece is the close delimiter of a block in which `depth` blocks are open. -/
def Ends (depth : Nat) : Piece → Prop
  | .closing _ => depth = 0
  | _ => False

@[simp] theorem span_withRest (rules : BlockRules) (t : Text) (p : Piece) :
    (p.withRest t).span rules = p.span rules := by
  cases p <;> rfl

@[simp] theorem depthAfter_withRest (depth : Nat) (t : Text) (p : Piece) :
    (p.withRest t).depthAfter depth = p.depthAfter depth := by
  cases p <;> rfl

@[simp] theorem ends_withRest (depth : Nat) (t : Text) (p : Piece) :
    (p.withRest t).Ends depth ↔ p.Ends depth := by
  cases p <;> rfl

theorem rest_withRest {p : Piece} (hp : p ≠ .openQuote) (t : Text) : (p.withRest t).rest = t := by
  cases p with
  | openQuote => exact absurd rfl hp
  | _ => rfl

theorem withRest_ne_openQuote {p : Piece} (hp : p ≠ .openQuote) (t : Text) :
    p.withRest t ≠ .openQuote := by
  cases p with
  | openQuote => exact absurd rfl hp
  | _ => simp [withRest]

theorem next_eq_append {rules : BlockRules} {c : Char} {s : Text}
    (hp : next rules c s ≠ .openQuote) :
    c :: s = (next rules c s).span rules ++ (next rules c s).rest := by
  have htakes := next_takes rules c s
  cases hn : next rules c s with
  | openQuote => exact absurd hn hp
  | _ =>
    rw [hn] at htakes
    exact htakes

theorem span_next_ne_nil {rules : BlockRules} {c : Char} {s : Text}
    (hp : next rules c s ≠ .openQuote) : (next rules c s).span rules ≠ [] := by
  intro hnil
  have happ := next_eq_append hp
  have hshort := next_shortens rules c s
  rw [hnil, List.nil_append] at happ
  cases hn : next rules c s with
  | openQuote => exact absurd hn hp
  | _ =>
    rw [hn] at happ hshort
    simp only [Shortens, rest] at happ hshort
    rw [happ] at hshort
    omega

/-- A piece starts with the first character of the text. -/
theorem exists_span_next {rules : BlockRules} {c : Char} {s : Text}
    (hp : next rules c s ≠ .openQuote) :
    ∃ w, (next rules c s).span rules = c :: w ∧ s = w ++ (next rules c s).rest := by
  have happ := next_eq_append hp
  obtain ⟨a, w, hspan⟩ := List.exists_cons_of_ne_nil (span_next_ne_nil hp)
  rw [hspan, List.cons_append, List.cons.injEq] at happ
  obtain ⟨rfl, hs⟩ := happ
  exact ⟨w, hspan, hs⟩

theorem plain_eq_opening {rules : BlockRules} {c : Char} {s rest : Text}
    (hn : rules.nestable = true) (h : c :: s = rules.opening ++ rest) :
    plain rules c s = .opening rest := by
  rw [plain, if_pos hn, h, after?_append]

/-- Where no block opens, what stands outside quotes and comments is a close delimiter or a single
character. -/
theorem plain_of_not_opening {rules : BlockRules} {c : Char} {s : Text}
    (h : ¬ (rules.nestable = true ∧ rules.opening <+: c :: s)) :
    plain rules c s =
      match after? rules.closing (c :: s) with
      | some rest => .closing rest
      | none => .other c s := by
  have hnone : (if rules.nestable then after? rules.opening (c :: s) else none) = none := by
    split
    · rename_i hn
      exact after?_eq_none_iff.2 fun hp => h ⟨hn, hp⟩
    · rfl
  unfold plain
  split
  · rename_i rest hopens
    rw [hnone] at hopens
    exact absurd hopens (by simp)
  · rfl

theorem plain_swap {rules : BlockRules} {c : Char} {w v r t : Text}
    (ho : NoNewStart rules.opening r t) (hc : NoNewStart rules.closing r t)
    (hw : (plain rules c (w ++ (v ++ r))).span rules = c :: w)
    (hrest : (plain rules c (w ++ (v ++ r))).rest = v ++ r) :
    plain rules c (w ++ (v ++ t)) = (plain rules c (w ++ (v ++ r))).withRest (v ++ t) := by
  have hsplit (x : Text) : c :: (w ++ (v ++ x)) = (c :: w ++ v) ++ x := by simp
  have hne : c :: w ++ v ≠ [] := by simp
  by_cases hop : rules.nestable = true ∧ rules.opening <+: c :: (w ++ (v ++ r))
  · -- the open delimiter is `c :: w` itself, so it stays
    obtain ⟨hn, rest, hr⟩ := hop
    rw [plain_eq_opening hn hr.symm] at hw hrest ⊢
    obtain rfl : rest = v ++ r := hrest
    have hopen : rules.opening = c :: w := hw
    have hopen' : c :: (w ++ (v ++ t)) = rules.opening ++ (v ++ t) := by
      rw [hopen, List.cons_append]
    rw [plain_eq_opening hn hopen']
    rfl
  · -- no open delimiter starts newly, so only the close delimiter is left to compare
    have hop' : ¬ (rules.nestable = true ∧ rules.opening <+: c :: (w ++ (v ++ t))) := by
      rintro ⟨hn, hp⟩
      rw [hsplit] at hp hop
      exact hop ⟨hn, ho _ hne hp⟩
    rw [plain_of_not_opening hop] at hw hrest ⊢
    rw [plain_of_not_opening hop']
    cases ha : after? rules.closing (c :: (w ++ (v ++ r))) with
    | some rest =>
      simp only [ha] at hw hrest ⊢
      obtain rfl : rest = v ++ r := hrest
      have hclose : rules.closing = c :: w := hw
      rw [hclose, ← List.cons_append, after?_append]
      rfl
    | none =>
      have hnone : after? rules.closing (c :: (w ++ (v ++ t))) = none := by
        rw [after?_eq_none_iff, hsplit] at ha ⊢
        exact fun hp => ha (hc _ hne hp)
      simp only [ha] at hw
      obtain rfl : w = [] := by simpa [span] using hw
      rw [hnone]
      rfl

/-- A piece stays one when what follows it is replaced, from the second character on if it is a
quoted span or a comment. -/
theorem next_swap {rules : BlockRules} {c : Char} {w v r t : Text}
    (ho : NoNewStart rules.opening r t) (hc : NoNewStart rules.closing r t)
    (hv : v = [] → ∃ rest, next rules c (w ++ (v ++ r)) = .closing rest)
    (hw : (next rules c (w ++ (v ++ r))).span rules = c :: w)
    (hrest : (next rules c (w ++ (v ++ r))).rest = v ++ r) :
    next rules c (w ++ (v ++ t)) = (next rules c (w ++ (v ++ r))).withRest (v ++ t) := by
  by_cases hl : rules.literal = true
  · simp only [next, hl, if_true] at hw hrest ⊢
    exact plain_swap ho hc hw hrest
  by_cases hq : isQuote c = true
  · simp only [next, hl, hq, if_true, Bool.false_eq_true, if_false] at hv hw hrest ⊢
    cases hquoted : quoted? c (w ++ (v ++ r)) with
    | none => simp [hquoted, span] at hw
    | some found =>
      obtain ⟨span, rest⟩ := found
      simp only [hquoted] at hv hw hrest ⊢
      obtain rfl : span = c :: w := hw
      obtain rfl : rest = v ++ r := hrest
      cases v with
      | nil => simp at hv
      | cons d v =>
        obtain ⟨w', hw', hswap⟩ := quoted?_swap hquoted (v ++ t)
        obtain rfl : w = w' := by simpa using hw'
        simp only [List.cons_append, hswap]
        rfl
  by_cases hcomment : rules.comment = [c]
  · simp only [next, hl, hq, hcomment, if_true, Bool.false_eq_true, if_false] at hv hw hrest ⊢
    cases v with
    | nil => simp at hv
    | cons d v =>
      have htake := List.tail_eq_of_cons_eq hw
      obtain ⟨hw', hrest'⟩ := takeWhile_newline_swap htake hrest (v ++ t)
      simp only [List.cons_append] at htake ⊢
      rw [hw', hrest', htake]
      rfl
  · simp only [next, hl, hq, hcomment, Bool.false_eq_true, if_false] at hw hrest ⊢
    exact plain_swap ho hc hw hrest

end Piece

/-! ## The end of a block, piece by piece -/

/-- The text `s` is the body of a block inside which `depth` more blocks are open at the start of
`s`, then a close delimiter, then `rest`. -/
inductive Closes (rules : BlockRules) : Nat → Text → Text → Text → Prop
  | done {c : Char} {s rest : Text} (h : Piece.next rules c s = .closing rest) :
      Closes rules 0 (c :: s) [] rest
  | step {depth : Nat} {c : Char} {s body rest : Text} {p : Piece}
      (h : Piece.next rules c s = p) (hquote : p ≠ .openQuote) (hend : ¬ p.Ends depth)
      (more : Closes rules (p.depthAfter depth) p.rest body rest) :
      Closes rules depth (c :: s) (p.span rules ++ body) rest

/-- One step of the close search over a piece that does not end it. -/
theorem findClose_step {rules : BlockRules} {depth : Nat} {c : Char} {s : Text} {p : Piece}
    (h : Piece.next rules c s = p) (hquote : p ≠ .openQuote) (hend : ¬ p.Ends depth) :
    findClose rules depth (c :: s) =
      extendClose (p.span rules) (findClose rules (p.depthAfter depth) p.rest) := by
  rw [findClose]
  subst h
  split <;> rename_i hp
  · exact absurd hp hquote
  all_goals rw [hp] at hend ⊢
  case h_5 rest =>
    cases depth with
    | zero => exact absurd rfl hend
    | succ depth => rfl
  all_goals rfl

theorem findClose_done {rules : BlockRules} {c : Char} {s rest : Text}
    (h : Piece.next rules c s = .closing rest) :
    findClose rules 0 (c :: s) = .ok ([], rest) := by
  rw [findClose]
  split <;> rename_i hp
  all_goals rw [h] at hp
  case h_5 => rw [Piece.closing.inj hp]
  all_goals exact absurd hp (by simp)

theorem Closes.findClose_eq {rules : BlockRules} {depth : Nat} {s body rest : Text}
    (h : Closes rules depth s body rest) : findClose rules depth s = .ok (body, rest) := by
  induction h with
  | done h => exact findClose_done h
  | step h hquote hend _ ih => rw [findClose_step h hquote hend, ih]; rfl

theorem findClose_eq_ok_iff {rules : BlockRules} {depth : Nat} {s body rest : Text} :
    findClose rules depth s = .ok (body, rest) ↔ Closes rules depth s body rest := by
  refine ⟨fun h => ?_, Closes.findClose_eq⟩
  fun_induction findClose rules depth s generalizing body with
  | case1 => simp at h
  | case2 => simp at h
  -- the pieces that do not end the block: quoted spans, comments, open delimiters and characters
  | case3 d c s span r hp ih | case4 d c s span r hp ih | case5 d c s r hp ih
  | case8 d c s x r hp ih =>
    obtain ⟨b, hb, rfl⟩ := extendClose_eq_ok h
    exact .step hp (by simp) (by simp [Piece.Ends]) (ih hb)
  | case6 c s r hp =>
    simp only [Except.ok.injEq, Prod.mk.injEq] at h
    obtain ⟨rfl, rfl⟩ := h
    exact .done hp
  | case7 c s r hp d ih =>
    obtain ⟨b, hb, rfl⟩ := extendClose_eq_ok h
    exact .step hp (by simp) (by simp [Piece.Ends]) (ih hb)

theorem Closes.append {rules : BlockRules} {depth : Nat} {s body rest : Text}
    (h : Closes rules depth s body rest) : s = body ++ rules.closing ++ rest :=
  findClose_append h.findClose_eq

/-- What follows the close delimiter of a block may be replaced by a text in front of which no
delimiter newly starts. -/
theorem Closes.swap {rules : BlockRules} {depth : Nat} {s body r t : Text}
    (ho : NoNewStart rules.opening r t) (hc : NoNewStart rules.closing r t)
    (h : Closes rules depth s body r) :
    Closes rules depth (body ++ rules.closing ++ t) body t := by
  induction h with
  | @done c s r h =>
    have hquote : Piece.next rules c s ≠ .openQuote := by simp [h]
    obtain ⟨w, hw, hs⟩ := Piece.exists_span_next hquote
    rw [h] at hw hs
    have hclose : rules.closing = c :: w := hw
    obtain rfl : s = w ++ ([] ++ r) := hs
    have hnext := Piece.next_swap ho hc (fun _ => ⟨r, h⟩) (by rw [h]; exact hw) (by rw [h]; rfl)
    rw [h] at hnext
    rw [List.nil_append, hclose]
    exact .done hnext
  | @step depth c s body r p h hquote hend more ih =>
    obtain ⟨w, hw, hs⟩ := Piece.exists_span_next (h.symm ▸ hquote)
    rw [h] at hw hs
    -- what follows the piece holds the close delimiter, so it is not replaced as a whole
    have hrest : p.rest = body ++ rules.closing ++ r := more.append
    rw [hrest] at hs
    subst hs
    have hv : body ++ rules.closing ≠ [] := by simp [rules.closing_ne]
    have hnext := Piece.next_swap ho hc (fun hnil => absurd hnil hv) (by rw [h]; exact hw)
      (by rw [h]; exact hrest)
    rw [h] at hnext
    have hmore : Closes rules ((p.withRest (body ++ rules.closing ++ t)).depthAfter depth)
        (p.withRest (body ++ rules.closing ++ t)).rest body t := by
      rw [Piece.depthAfter_withRest, Piece.rest_withRest hquote]
      exact ih ho hc
    have := Closes.step hnext (Piece.withRest_ne_openQuote hquote _) (by simpa using hend) hmore
    rw [Piece.span_withRest, hw] at this
    rw [hw]
    simpa using this

/-- The close search of a block does not depend on what follows the block, as far as no delimiter
newly starts in front of it. -/
theorem findClose_swap {rules : BlockRules} {depth : Nat} {s body r t : Text}
    (ho : NoNewStart rules.opening r t) (hc : NoNewStart rules.closing r t)
    (h : findClose rules depth s = .ok (body, r)) :
    findClose rules depth (body ++ rules.closing ++ t) = .ok (body, t) :=
  ((findClose_eq_ok_iff.1 h).swap ho hc).findClose_eq

end Template
end Stencil
