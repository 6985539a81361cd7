import Stencil.Config.Settings
import Stencil.Render.Call
import Stencil.Proofs.Template.CloseSearch
import Stencil.Proofs.Template.Lexing
import Stencil.Proofs.Template.Source
import Stencil.Proofs.Template.Doubling
import Stencil.Proofs.Expr.BlockEnd
import Stencil.Proofs.Quote.ShellWords
import Stencil.Proofs.Basic
import Stencil.Proofs.Context.Derivation
import Stencil.Proofs.Rows.Broadcast
import Stencil.Proofs.Render.Rows
import Stencil.Proofs.Template.Concatenation
import Stencil.Proofs.Render.Concatenation
import Stencil.Proofs.Moved.Basic
import Stencil.Proofs.Moved.Values
import Stencil.Proofs.Moved.Compare
import Stencil.Proofs.Moved.Printf
import Stencil.Proofs.Moved.Arithmetic
import Stencil.Proofs.Moved.Operation
import Stencil.Proofs.Moved.Scope
import Stencil.Proofs.Moved.Eval
import Stencil.Proofs.Moved.Block
import Stencil.Proofs.Quote.TextLiterals
import Stencil.Proofs.Config.Options
import Stencil.Proofs.Config.Words
import Stencil.Proofs.Text.Utf8
import Stencil.Proofs.Render.Fallback
import Stencil.Proofs.Config.Files
import Stencil.Proofs.Transform.Registry
import Stencil.Proofs.Template.Spans
import Stencil.Proofs.Template.Quotation
import Stencil.Proofs.Template.BlockTokens
import Stencil.Proofs.Template.ErrorOffset
import Stencil.Proofs.Template.Trim
import Stencil.Proofs.Render.Invocations
import Stencil.Proofs.Rows.Uneven
import Stencil.Proofs.Template.TopLevel
import Stencil.Proofs.Expr.Brackets
import Stencil.Proofs.Expr.QuotedText
import Stencil.Proofs.Render.QuotedText
import Stencil.Proofs.Render.Variables
import Stencil.Proofs.Config.Merging
import Stencil.Proofs.Rows.Width
import Stencil.Proofs.Transform.Formats
import Stencil.Proofs.Text.Blank
import Stencil.Proofs.Quote.CommandArguments
import Stencil.Proofs.Quote.Numbers
import Stencil.Proofs.Template.Legible
import Stencil.Proofs.Render.Symbols
import Stencil.Proofs.Transform.Delegation
import Stencil.Proofs.Transform.Marked
import Stencil.Proofs.Render.Queries
import Stencil.Proofs.Style.Shown
import Stencil.Proofs.Style.Block
import Stencil.Proofs.Template.QuotedEnd
import Stencil.Proofs.Style.Nesting
import Stencil.Proofs.Quote.DistinctArguments
