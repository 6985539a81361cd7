import Stencil.Transform.Apply
import Stencil.Transform.Registry

/-!
# Render calls

A template becomes rows with the names of a context and further variables (`render`), with columns
of data (`renderData`), or with a certain transformer. -/

namespace Stencil

/-- What a caller gives as options: nothing, values of fields, or options that are there already. -/
inductive OptionsSource
  | nothing
  | given (g : GivenOptions)
  | options (o : Options)

/-- The options that a caller's argument stands for. -/
def OptionsSource.toOptions : OptionsSource → Except Problem Options
  | nothing => .ok .standard
  | given g => (Options.ofGiven g).mapError .options
  | options o => .ok o

/-- A render call: a template with what its blocks can refer to, and the registry that knows
transformers by name. -/
structure Call where
  registry : Registry
  template : TemplateSource
  context : ContextSource
  names : Table

namespace Call

/-- Refuses variables with the names of parameters. -/
def refuse (parameters : List String) (c : Call) : Except Problem Unit :=
  refuseNames parameters (c.names.map (·.1))

/-- The parameters that all calls have. -/
def parameters : List String := ["template", "context", "options"]

/-- The rows of a call with the given options. The template is parsed before anything else is looked
at, and its blocks see what names stand for at the start of the call. -/
def rows (c : Call) (o : Options) : Rendering (List Text) := do
  let segments ← Run.ofExcept ((o.layout.prepare c.template).mapError .parse)
  let context ← Run.ofExcept (c.context.toContext.mapError .context)
  let bound ← Run.ofExcept ((context.bind c.names).mapError .argument)
  let snapshot := bound.freeze (← get)
  let t ← Run.ofExcept (c.registry.resolve (← get) (some o.layout) o.transformer.given)
  renderSegments (fun text => t.apply text snapshot) o.layout segments

/-- The rows of a call. -/
def render (c : Call) (options : OptionsSource) : Rendering (List Text) := do
  Run.ofExcept (c.refuse parameters)
  let o ← Run.ofExcept options.toOptions
  c.rows o

/-- The rows of a call with the columns of `data` in front of the names of the context. -/
def renderData (c : Call) (data : Value) (options : OptionsSource) : Rendering (List Text) := do
  Run.ofExcept (c.refuse ("data" :: parameters))
  let context ← Run.ofExcept (c.context.toContext.mapError .context)
  let columns ← Run.ofExcept (((← get).columns data).mapError .context)
  render { c with context := .context (context.withData columns) } options

/-- The rows of a call with a transformer that is made after the options are checked. -/
def renderWith (c : Call) (parameter : List String) (options : OptionsSource)
    (make : Options → Except Problem Options) : Rendering (List Text) := do
  Run.ofExcept (c.refuse (parameter ++ parameters))
  let o ← Run.ofExcept options.toOptions
  c.rows (← Run.ofExcept (make o))

/-- A shell by the value that names it. -/
def shellOf (s : Store) (v : Value) : Except Problem Shell :=
  match v.text?.bind Shell.ofName? with
  | some shell => .ok shell
  | none =>
    match s.text v with
    | .ok name => .error (.transformer (.unknownShell name))
    | .error f => .error (.fault f)

/-- The rows of a command line. -/
def renderShell (c : Call) (shell : Value) (options : OptionsSource) : Rendering (List Text) := do
  let s ← get
  c.renderWith ["shell_type"] options fun o => do
    return o.withTransformer (.shell (← shellOf s shell) .identity)

/-- The rows of a template whose blocks may end in a format. -/
def renderFormatted (c : Call) (options : OptionsSource) : Rendering (List Text) :=
  c.renderWith [] options fun o => .ok (o.withTransformer (.sprintf .identity))

/-- The rows of a template with a fallback for blocks that fail. -/
def renderSafely (c : Call) (fallback : Fallback) (options : OptionsSource) :
    Rendering (List Text) :=
  c.renderWith ["otherwise"] options fun o =>
    .ok (o.withTransformer (.safely fallback .identity))

/-- The rows of a template whose blocks may ask to be shown with their values. -/
def renderShowing (c : Call) (options : OptionsSource) : Rendering (List Text) :=
  c.renderWith [] options fun o => .ok (o.withTransformer (.showing none .identity))

/-- The rows of a template with symbols between colons. -/
def renderSymbols (c : Call) (table : Option Table) (options : OptionsSource) :
    Rendering (List Text) :=
  c.renderWith [] options fun o =>
    let layout : Layout := { o.layout with rules := o.layout.rules.betweenColons }
    .ok ⟨layout, .transformer (.lookup (table.getD symbolTable) .star [])⟩

/-- The rows of a template with style blocks, in the codes of a colour system. -/
def renderColored (c : Call) (system : Option Text) (options : OptionsSource) :
    Rendering (List Text) :=
  c.renderWith ["color_system"] options fun o =>
    .ok (o.withTransformer (.color (some o.layout) system))

/-- The rows of a query as fragments. -/
def renderQuery (c : Call) (handle : Value) (options : OptionsSource) :
    Rendering (List Value) := do
  let rows ← c.renderWith ["connection"] options fun o => do
    let dialect ← (Dialect.ofHandle handle).mapError .quoting
    return o.withTransformer (.sql dialect)
  return rows.map .fragment

end Call
end Stencil
