import Stencil.Context
import Stencil.Quote.Dialect
import Stencil.Template.Lexeme

/-!
# Problems

All that can go wrong while a template is rendered or a setting is used.
-/

namespace Stencil

/-- Why a value or name cannot be quoted in a query. -/
inductive QuotingError
  | dialect (choice : Text) (cause : Dialect.Refusal)
  | handle (typeName : String)
  | identifier (typeName : String)
  | value (typeName : String)
  deriving DecidableEq, Repr

/-- What cannot be quoted, in words. -/
def QuotingError.message : QuotingError → String
  | dialect choice cause =>
    "Unknown SQL dialect '" ++ String.ofList choice ++ "': " ++ cause.message
  | handle t => "Unsupported connection handle of type " ++ t
  | identifier t => "Identifiers must be strings, got " ++ t
  | value t => "Cannot quote value of type " ++ t ++ " for SQL"

/-- Why a transformer cannot be used. -/
inductive TransformerError
  | unknownName (name : Text) (available : List Text)
  | unknownShell (name : Text)
  | unsupportedShell (name : Text)
  | notCallable (quoted : Text)
  deriving DecidableEq, Repr

/-- What is wrong with a transformer, in words. -/
def TransformerError.message : TransformerError → String
  | unknownName name available =>
    "Unknown transformer '" ++ String.ofList name ++ "'. Available transformers: " ++
      if available = [] then "none"
      else String.ofList (Text.joinWith [',', ' '] available)
  | unknownShell name =>
    "Unknown shell type '" ++ String.ofList name ++ "'. Valid types: sh, csh, cmd, cmd2"
  | unsupportedShell name => "Unsupported shell type: " ++ String.ofList name
  | notCallable quoted => "Transformer " ++ String.ofList quoted ++ " is not callable"

/-- The settings of a render call. -/
inductive OptionField
  | openDelimiter
  | closeDelimiter
  | literal
  | transformer
  | na
  | sep
  | trim
  | comment
  | broadcast
  | dialect
  deriving DecidableEq, Repr

/-- What is wrong with the value of a setting. -/
inductive OptionFault
  | notText
  | notUnicode
  | emptyDelimiter
  | longComment
  | notCallable (typeName : String)
  | unclearTruth
  | notTruth
  | notPolicy
  deriving DecidableEq, Repr

/-- A setting whose value is refused. -/
structure OptionError where
  field : OptionField
  fault : OptionFault
  deriving DecidableEq, Repr

/-- Why a render call, or a part of it, comes to nothing. A block that fails is given with its
cause; a fault stands for itself where no block is to blame. -/
inductive Problem
  | parse (e : Template.ParseError)
  | quoting (e : QuotingError)
  | block (text : Text) (cause : Fault)
  | broadcast (e : BroadcastError)
  | transformer (e : TransformerError)
  | options (errors : List OptionError)
  | context (e : ContextError)
  | emptyDelimiters
  | notTransformer (shown : Text)
  | colorSystem
  | argument (name : Text)
  | noBytes
  | markup (line : Text)
  | fault (f : Fault)

/-- A computation that ends in a problem if it fails. -/
abbrev Rendering (α : Type) := Run Problem α

namespace Rendering

/-- A computation whose faults no block is to blame for. -/
def ofFaults {α : Type} (c : Run Fault α) : Rendering α := c.mapError .fault

/-- A computation whose faults a block is to blame for, unless it asks the program to end. -/
def ofBlock {α : Type} (text : Text) (c : Run Fault α) : Rendering α := c.mapError fun
  | .exit => .fault .exit
  | cause => .block text cause

end Rendering
end Stencil
