import Stencil.Proofs.Expr.QuotedText
import Stencil.Proofs.Render.Blocks
import Stencil.Proofs.Render.Invocations
import Stencil.Proofs.Render.Rows
import Stencil.Proofs.Template.Trim

/-!
# Quoted texts in templates

A text that stands in a template in its quoted form comes through as it is. The block with it is not
trimmed and is parsed as that block alone (`prepare_quotedBlock`), whatever quotes, backslashes and
delimiters the text has, and as an expression it is the text in every context (`evaluate_quoted`).
Main statement: `Call.render_quotedBlock`, the only row is the text.
-/

namespace Stencil

open Template (Segment)

/-! ## The block -/

/-- A block that is closed at the end of a template is all that there is in it. -/
theorem Template.parse_of_closes {body : Text} (hbody : body.head? ≠ some '\x7b')
    (hblank : Text.allBlank body = false)
    (h : Closes .standard 0 (body ++ ['\x7d']) body []) :
    parse .standard ('\x7b' :: (body ++ ['\x7d'])) =
      .ok [.expression body 0 (body.length + 2)] := by
  have hopen : ¬ BlockRules.standard.opening <+: body ++ ['\x7d'] := by
    cases body with
    | nil => exact absurd hblank (by simp [Text.allBlank])
    | cons c body =>
      intro hstart
      obtain rfl : '\x7b' = c := (List.cons_prefix_cons.1 hstart).1
      exact hbody rfl
  have hparse := parse_block hopen hblank h
  have hlen : (BlockRules.standard.opening ++ body ++ BlockRules.standard.closing).length =
      body.length + 2 := by
    simp [BlockRules.standard]
  rw [hlen] at hparse
  exact hparse

/-- The block with the quoted form of a text. -/
def quotedBlock (s : Text) : Text := '\x7b' :: (Text.quoted s ++ ['\x7d'])

theorem parse_quotedBlock (s : Text) :
    Template.parse .standard (quotedBlock s) =
      .ok [.expression (Text.quoted s) 0 ((Text.quoted s).length + 2)] := by
  have hquote := Expr.isQuote_quoteFor s
  have hend : Template.Closes .standard 0 ['\x7d'] [] [] :=
    .done (Expr.next_standard_closing [])
  have hrest : ['\x7d'].head? ≠ some (Text.quoteFor s) := by
    simpa using Expr.ne_quoteFor (by decide) s
  have hclose := Expr.closes_quoted hquote (Expr.quoted?_quoted s hrest) hend
  refine Template.parse_of_closes ?_ ?_ ?_
  · rw [Expr.quoted_eq, List.head?_cons]
    exact fun h => Expr.ne_quoteFor (by decide) s (Option.some.inj h).symm
  · obtain hq | hq := Expr.quoteFor_eq s <;> rw [Expr.quoted_eq, hq] <;> rfl
  · simpa [Expr.quoted_eq] using hclose

/-- The block is a single line, which is not trimmed. -/
theorem prepare_quotedBlock (s : Text) :
    Layout.standard.prepare (.whole (quotedBlock s)) =
      .ok [.expression (Text.quoted s) 0 ((Text.quoted s).length + 2)] := by
  have hline : '\n' ∉ quotedBlock s := by
    have := Expr.not_mem_quoted s (x := '\n') (by simp)
    simpa [quotedBlock] using this
  have htrim : Template.trim (quotedBlock s) = quotedBlock s := Template.trim_of_not_mem hline
  have hprepare : Layout.standard.prepare (.whole (quotedBlock s)) =
      Template.parse .standard (Template.trim (quotedBlock s)) := rfl
  rw [hprepare, htrim, parse_quotedBlock]

/-! ## Its value -/

theorem evaluate_quoted (s : Text) (c : Context) (store : Store) :
    (evaluate (Text.quoted s) (.context c) store).1 = .ok (.text s) := by
  have hvalue (names : Table) (store : Store) :
      (evalWith names (.constant (.text s)) store).1 = .ok (.text s) := by
    have hfuel : evaluationFuel = 999999 + 1 := rfl
    rw [evalWith]
    simp only [hfuel, eval]
    rfl
  rw [evaluate_of_read (Expr.compile_quoted store.machine s), Rendering.ofBlock,
    Run.mapError_apply, hvalue]
  rfl

/-- The piece of the block is the text. -/
theorem segmentsTexts_quotedBlock (s : Text) (c : Context) (na : Text) (start stop : Nat)
    (store : Store) :
    ∃ after, segmentsTexts .identity c na [.expression (Text.quoted s) start stop] store =
      (.ok [[s]], after) := by
  have htexts (s' : Store) :
      Rendering.ofFaults (vectorTexts na (.text s)) s' = (.ok [s], s') := rfl
  obtain ⟨after, hvalue⟩ : ∃ after, evaluate (Text.quoted s) (.context c) store =
      (.ok (.text s), after) := ⟨_, Prod.ext (evaluate_quoted s c store) rfl⟩
  have hpiece : segmentTexts (fun text => Transformer.identity.apply text c) na
      (.expression (Text.quoted s) start stop) store = (.ok [s], after) := by
    rw [segmentTexts, Transformer.apply, Run.bind_of_ok hvalue, htexts]
  refine ⟨after, ?_⟩
  rw [segmentsTexts, List.mapM_cons, Run.bind_of_ok hpiece]
  rfl

/-! ## Render calls -/

/-- A block that holds the quoted form of a text is rendered with the usual options as that text, in
every context. -/
theorem Call.render_quotedBlock {c : Call} {options : OptionsSource} {context bound : Context}
    {s : Text} (htemplate : c.template = .whole (quotedBlock s))
    (ho : options.toOptions = .ok .standard) (hcontext : c.context.toContext = .ok context)
    (hnames : c.refuse parameters = .ok ()) (hbound : context.bind c.names = .ok bound)
    (store : Store) : (c.render options store).1 = .ok [s] := by
  have hopening : c.opening .standard store = .ok (bound.freeze store,
      [.expression (Text.quoted s) 0 ((Text.quoted s).length + 2)]) :=
    opening_eq_ok_iff.2 ⟨hnames, htemplate ▸ prepare_quotedBlock s, context, bound, hcontext,
      hbound, rfl⟩
  obtain ⟨after, hpieces⟩ := segmentsTexts_quotedBlock s (bound.freeze store)
    Layout.standard.na 0 ((Text.quoted s).length + 2) store
  have hone : rowCount .recycle [1] = .ok (1, none) := by decide +kernel
  have hcount : rowCount .recycle (pieceLengths [[s]]) = .ok (1, none) := hone
  rw [render_of_opening_eq_ok ho rfl hopening hpieces, Run.ofExcept_ok_bind]
  change (assemble .recycle [[s]] after).1 = _
  rw [assemble_of_ok hcount, recycle?_eq (by simp)]
  simp [cycled]

/-- Both quotes, delimiters, a backslash, a newline, a null character and a line separator, in a
call with a dictionary of names as its context and another variable. -/
theorem Call.render_quotedBlock_quotes_and_delimiters :
    let s : Text := "it's \"\x7ba\x7d\" \\ \n\x00\u2028#".toList
    let c : Call := ⟨.installed, .whole (quotedBlock s), .value (.dict 0), [(['b'], .none)]⟩
    let store := Store.empty.push (.dict (.ofEntries [(.text ['a'], .int 1)]))
    quotedBlock s = "\x7b'it\\'s \"\x7ba\x7d\" \\\\ \\n\\x00\\u2028#'\x7d".toList ∧
      (c.render .nothing store).1 = .ok [s] := by
  intro s c store
  exact ⟨by decide +kernel, render_quotedBlock rfl rfl rfl rfl rfl store⟩

end Stencil
