import Stencil.Expr.Escape
import Stencil.Expr.Format

/-!
# Parsing expressions

Reads an expression from its tokens, from the loosest operators to the tightest. Each function takes
the tokens from where a phrase should start and gives the phrase with the tokens after it. They all
go down a fuel count, for which the length of the source is enough: between two tokens there are
fewer than twenty steps.
-/

namespace Stencil.Expr

/-- The name of a constant that is true, whatever a context says. -/
def debugName : Text := "__debug__".toList

/-! ## Tables -/

/-- The levels of binary operators, from the loosest to the tightest. -/
def binaryLevels : List (List (String × BinaryOp)) := [
  [("|", .bitOr)],
  [("^", .bitXor)],
  [("&", .bitAnd)],
  [("<<", .shiftLeft), (">>", .shiftRight)],
  [("+", .add), ("-", .sub)],
  [("*", .mul), ("@", .matMul), ("/", .div), ("//", .floorDiv), ("%", .mod)]]

/-- The operator of a level that a list of tokens starts with, and the tokens after it. -/
def binaryOp? (level : List (String × BinaryOp)) : List Token → Option (BinaryOp × List Token)
  | .symbol s :: ts => (level.lookup s).map (·, ts)
  | _ => none

/-- The comparison that a list of tokens starts with, and the tokens after it. -/
def compareOp? : List Token → Option (CompareOp × List Token)
  | .symbol "<" :: ts => some (.lt, ts)
  | .symbol "<=" :: ts => some (.le, ts)
  | .symbol ">" :: ts => some (.gt, ts)
  | .symbol ">=" :: ts => some (.ge, ts)
  | .symbol "==" :: ts => some (.eq, ts)
  | .symbol "!=" :: ts => some (.ne, ts)
  | .keyword "in" :: ts => some (.isIn, ts)
  | .keyword "not" :: .keyword "in" :: ts => some (.notIn, ts)
  | .keyword "is" :: .keyword "not" :: ts => some (.isNot, ts)
  | .keyword "is" :: ts => some (.is, ts)
  | _ => none

/-- Whether an expression is the elements of a sequence rather than a value. -/
def isStarred : Expr → Bool
  | .starred _ => true
  | _ => false

/-- Whether tokens start by giving a name. -/
def startsAssign : List Token → Bool
  | .name _ :: .symbol ":=" :: _ => true
  | _ => false

/-! ## Targets -/

/-- Whether a target stands for the remaining elements. -/
def Target.isRest : Target → Bool
  | .rest _ => true
  | _ => false

/-- A sequence of targets, of which one at most takes the remaining elements. -/
def sequence? (targets : List Target) : Option Target :=
  if (targets.filter Target.isRest).length ≤ 1 then some (.sequence targets) else none

/-- The target that several make up, of which a comma may follow the last; one alone without a comma
is itself. -/
def joined? (targets : List Target) (comma : Bool) : Option Target :=
  match targets, comma with
  | [t], false => if t.isRest then none else some t
  | targets, _ => sequence? targets

/-! ## Parameters -/

/-- A parameter of a lambda, with its default. -/
abbrev Parameter := ParameterKind × Text × Option Expr

/-- What has come before a parameter: one with a default, a slash, a star, a lone star that still
needs a parameter after it, or the parameter that takes all remaining names. -/
structure ParameterState where
  defaulted : Bool
  slashed : Bool
  starred : Bool
  pending : Bool
  closed : Bool

/-! ## Arguments -/

/-- Whether an argument may come after others: one by position comes before all named ones, an
unpacked sequence before all unpacked dictionaries, and a name comes once. -/
def mayFollow (kind : ArgumentKind) (earlier : List ArgumentKind) : Bool :=
  match kind with
  | .positional => earlier.all fun k => k = .positional ∨ k = .unpacked
  | .unpacked => !earlier.contains .unpackedNamed
  | .named x => !earlier.contains (.named x)
  | .unpackedNamed => true

/-- Whether tokens start with a clause of a comprehension. -/
def startsClause : List Token → Bool
  | .keyword "for" :: _ | .keyword "async" :: _ => true
  | _ => false

/-! ## Expressions -/

section

variable (names : CharNames)

mutual

/-- A conditional expression or a lambda. -/
def expression? : (fuel : Nat) → List Token → Option (Expr × List Token)
  | 0, _ => none
  | n + 1, .keyword "lambda" :: ts => do
    let (parameters, ts) ← parameters? n ⟨false, false, false, false, false⟩ [] ts
    let (body, ts) ← expression? n ts
    some (.lambda parameters body, ts)
  | n + 1, ts => do
    let (yes, ts) ← disjunction? n ts
    match ts with
    | .keyword "if" :: ts => do
      let (test, ts) ← disjunction? n ts
      match ts with
      | .keyword "else" :: ts => do
        let (no, ts) ← expression? n ts
        some (.conditional test yes no, ts)
      | _ => none
    | ts => some (yes, ts)

/-- The parameters of a lambda after the given ones, up to the colon. -/
def parameters? : (fuel : Nat) → ParameterState → List Parameter → List Token →
    Option (List Parameter × List Token)
  | 0, _, _, _ => none
  | _ + 1, state, done, .symbol ":" :: ts =>
    if state.pending then none else some (done.reverse, ts)
  | n + 1, state, done, .symbol "/" :: ts =>
    if state.slashed || state.starred || state.closed || done.isEmpty then none
    else nextParameter? n { state with slashed := true } done ts
  | n + 1, state, done, .symbol "*" :: .name x :: ts =>
    if state.starred || state.closed || done.any (·.2.1 = x) then none
    else nextParameter? n { state with starred := true } ((.rest, x, none) :: done) ts
  | n + 1, state, done, .symbol "*" :: .symbol "," :: ts =>
    if state.starred || state.closed then none
    else parameters? n { state with starred := true, pending := true } done ts
  | n + 1, state, done, .symbol "**" :: .name x :: ts =>
    if state.pending || state.closed || done.any (·.2.1 = x) then none
    else nextParameter? n { state with closed := true } ((.restNamed, x, none) :: done) ts
  | n + 1, state, done, .name x :: ts =>
    if state.closed || done.any (·.2.1 = x) then none
    else do
      let (value, ts) ← match ts with
        | .symbol "=" :: ts => (expression? n ts).map fun (e, ts) => (some e, ts)
        | ts => some (none, ts)
      if state.starred then
        nextParameter? n { state with pending := false } ((.namedOnly, x, value) :: done) ts
      else if state.defaulted && value.isNone then none
      else nextParameter? n { state with defaulted := value.isSome } ((.plain, x, value) :: done) ts
  | _ + 1, _, _, _ => none

/-- The parameters after a comma, or the end of them. -/
def nextParameter? : (fuel : Nat) → ParameterState → List Parameter → List Token →
    Option (List Parameter × List Token)
  | 0, _, _, _ => none
  | n + 1, state, done, .symbol "," :: ts => parameters? n state done ts
  | _ + 1, _, done, .symbol ":" :: ts => some (done.reverse, ts)
  | _ + 1, _, _, _ => none

/-- An expression that may be given a name. -/
def named? : (fuel : Nat) → List Token → Option (Expr × List Token)
  | 0, _ => none
  | n + 1, .name x :: .symbol ":=" :: ts => do
    let (value, ts) ← expression? n ts
    some (.assign x value, ts)
  | n + 1, ts => expression? n ts

/-- An item of a display: an expression, or a starred one. -/
def item? : (fuel : Nat) → List Token → Option (Expr × List Token)
  | 0, _ => none
  | n + 1, .symbol "*" :: ts => do
    let (e, ts) ← binary? n binaryLevels ts
    some (.starred e, ts)
  | n + 1, ts => named? n ts

/-- Operands of `or`. -/
def disjunction? : (fuel : Nat) → List Token → Option (Expr × List Token)
  | 0, _ => none
  | n + 1, ts => do
    let (left, ts) ← conjunction? n ts
    match ts with
    | .keyword "or" :: ts => do
      let (right, ts) ← disjunction? n ts
      some (.or left right, ts)
    | ts => some (left, ts)

/-- Operands of `and`. -/
def conjunction? : (fuel : Nat) → List Token → Option (Expr × List Token)
  | 0, _ => none
  | n + 1, ts => do
    let (left, ts) ← inversion? n ts
    match ts with
    | .keyword "and" :: ts => do
      let (right, ts) ← conjunction? n ts
      some (.and left right, ts)
    | ts => some (left, ts)

/-- A negation or a chain of comparisons. -/
def inversion? : (fuel : Nat) → List Token → Option (Expr × List Token)
  | 0, _ => none
  | n + 1, .keyword "not" :: ts => do
    let (e, ts) ← inversion? n ts
    some (.unary .not e, ts)
  | n + 1, ts => do
    let (first, ts) ← binary? n binaryLevels ts
    let (rest, ts) ← comparisons? n ts
    some (if rest.isEmpty then first else .compare first rest, ts)

/-- The comparisons that follow an operand. -/
def comparisons? : (fuel : Nat) → List Token → Option (List (CompareOp × Expr) × List Token)
  | 0, _ => none
  | n + 1, ts =>
    match compareOp? ts with
    | some (op, ts) => do
      let (e, ts) ← binary? n binaryLevels ts
      let (rest, ts) ← comparisons? n ts
      some ((op, e) :: rest, ts)
    | none => some ([], ts)

/-- Operands joined by the operators of the given levels, the first of which binds loosest. -/
def binary? : (fuel : Nat) → List (List (String × BinaryOp)) → List Token →
    Option (Expr × List Token)
  | 0, _, _ => none
  | n + 1, [], ts => factor? n ts
  | n + 1, level :: tighter, ts => do
    let (e, ts) ← binary? n tighter ts
    moreOperands? n level tighter e ts

/-- The operands that operators of a level join to `left`. -/
def moreOperands? : (fuel : Nat) → List (String × BinaryOp) → List (List (String × BinaryOp)) →
    Expr → List Token → Option (Expr × List Token)
  | 0, _, _, _, _ => none
  | n + 1, level, tighter, left, ts =>
    match binaryOp? level ts with
    | some (op, ts) => do
      let (right, ts) ← binary? n tighter ts
      moreOperands? n level tighter (.binary op left right) ts
    | none => some (left, ts)

/-- A signed factor or a power. A power binds tighter than a sign on its left, and looser than one
on its right. -/
def factor? : (fuel : Nat) → List Token → Option (Expr × List Token)
  | 0, _ => none
  | n + 1, .symbol "+" :: ts => (factor? n ts).map fun (e, ts) => (.unary .plus e, ts)
  | n + 1, .symbol "-" :: ts => (factor? n ts).map fun (e, ts) => (.unary .minus e, ts)
  | n + 1, .symbol "~" :: ts => (factor? n ts).map fun (e, ts) => (.unary .invert e, ts)
  | n + 1, ts => do
    let (base, ts) ← awaited? n ts
    match ts with
    | .symbol "**" :: ts => do
      let (exponent, ts) ← factor? n ts
      some (.binary .pow base exponent, ts)
    | ts => some (base, ts)

/-- A primary, perhaps one that is waited for. -/
def awaited? : (fuel : Nat) → List Token → Option (Expr × List Token)
  | 0, _ => none
  | n + 1, .keyword "await" :: ts => (primary? n ts).map fun (e, ts) => (.await e, ts)
  | n + 1, ts => primary? n ts

/-- An atom with the attributes, subscripts and calls that follow it. -/
def primary? : (fuel : Nat) → List Token → Option (Expr × List Token)
  | 0, _ => none
  | n + 1, ts => do
    let (e, ts) ← atom? n ts
    trailers? n e ts

/-- The attributes, subscripts and calls that follow `e`. -/
def trailers? : (fuel : Nat) → Expr → List Token → Option (Expr × List Token)
  | 0, _, _ => none
  | n + 1, e, .symbol "." :: ts =>
    match ts with
    | .name x :: ts => trailers? n (.attribute e x) ts
    | _ => none
  | n + 1, e, .opening .square :: ts => do
    let (index, ts) ← subscript? n ts
    trailers? n (.subscript e index) ts
  | n + 1, e, .opening .round :: ts => do
    let (arguments, ts) ← arguments? n [] ts
    trailers? n (.call e arguments) ts
  | _ + 1, e, ts => some (e, ts)

/-- A name, a constant, strings that stand side by side, or a bracket. -/
def atom? : (fuel : Nat) → List Token → Option (Expr × List Token)
  | 0, _ => none
  | _ + 1, .name x :: ts =>
    some (if x = debugName then .constant (.bool true) else .name x, ts)
  | _ + 1, .constant c :: ts => some (.constant c, ts)
  | _ + 1, .symbol "..." :: ts => some (.constant .ellipsis, ts)
  | n + 1, .string marks body :: ts => do
    if marks.bytes then
      let (bytes, ts) ← byteStrings? n (.string marks body :: ts)
      some (.constant (.bytes bytes), ts)
    else
      let (parts, isFormat, ts) ← strings? n (.string marks body :: ts)
      match parts, isFormat with
      | [e], false => some (e, ts)
      | parts, _ => some (.format parts, ts)
  | n + 1, .opening .round :: ts => group? n ts
  | n + 1, .opening .square :: ts => listDisplay? n ts
  | n + 1, .opening .curly :: ts => curlyDisplay? n ts
  | _ + 1, _ => none

/-- The bytes of the strings at the start, which must all be bytes. -/
def byteStrings? : (fuel : Nat) → List Token → Option (List UInt8 × List Token)
  | 0, _ => none
  | n + 1, .string marks body :: ts => do
    if !marks.bytes then none
    let here ← bodyBytes? marks.raw body
    let (rest, ts) ← byteStrings? n ts
    some (here ++ rest, ts)
  | _ + 1, ts => some ([], ts)

/-- The parts of the strings at the start, and whether one of them is a format string. Texts side
by side become one, and bytes are not among them. -/
def strings? : (fuel : Nat) → List Token → Option (List Expr × Bool × List Token)
  | 0, _ => none
  | n + 1, .string marks body :: ts => do
    if marks.bytes then none
    let here ← if marks.format then do
        let (parts, _) ← formatParts? marks.raw 0 (2 * body.length + 2) body
        formatted? n marks.raw parts
      else (bodyText? names marks.raw body).map fun s => [.constant (.text s)]
    let (rest, isFormat, ts) ← strings? n ts
    match here, rest with
    | [.constant (.text s)], .constant (.text t) :: rest =>
      some (.constant (.text (s ++ t)) :: rest, marks.format || isFormat, ts)
    | here, rest => some (here ++ rest, marks.format || isFormat, ts)
  | _ + 1, ts => some ([], false, ts)

/-- The expressions of the parts of a format string. -/
def formatted? : (fuel : Nat) → (raw : Bool) → List FormatPart → Option (List Expr)
  | 0, _, _ => none
  | _ + 1, _, [] => some []
  | n + 1, raw, .literal body :: parts => do
    let s ← bodyText? names raw body
    some (.constant (.text s) :: (← formatted? n raw parts))
  | n + 1, raw, .field source shown conversion spec :: parts => do
    let (value, rest) ← expression? n (← tokens? ('(' :: source ++ [')']))
    if rest = [] then
      let spec ← formatted? n raw spec
      let conversion :=
        if conversion.isNone && shown.isSome && spec.isEmpty then some 'r' else conversion
      let label := (shown.map fun s => Expr.constant (.text s)).toList
      some (label ++ .field value conversion spec :: (← formatted? n raw parts))
    else none

/-- What round brackets hold: nothing, an expression, a generator, the items of a tuple, or what is
yielded. -/
def group? : (fuel : Nat) → List Token → Option (Expr × List Token)
  | 0, _ => none
  | _ + 1, .closing .round :: ts => some (.tuple [], ts)
  | _ + 1, .keyword "yield" :: .closing .round :: ts => some (.yield false none, ts)
  | n + 1, .keyword "yield" :: .keyword "from" :: ts => do
    let (e, ts) ← expression? n ts
    match ts with
    | .closing .round :: ts => some (.yield true (some e), ts)
    | _ => none
  | n + 1, .keyword "yield" :: ts => do
    let (first, ts) ← if startsAssign ts then none else item? n ts
    match ts with
    | .closing .round :: ts =>
      if isStarred first then none else some (.yield false (some first), ts)
    | ts => do
      let (items, ts) ← items? n .round false ts
      some (.yield false (some (.tuple (first :: items))), ts)
  | n + 1, ts => do
    let (first, ts) ← item? n ts
    if startsClause ts then
      if isStarred first then none
      else do
        let (clauses, ts) ← clauses? n ts
        match ts with
        | .closing .round :: ts => some (.comprehension .generator (first, none) clauses, ts)
        | _ => none
    else
      match ts with
      | .closing .round :: ts => if isStarred first then none else some (first, ts)
      | ts => do
        let (items, ts) ← items? n .round true ts
        some (.tuple (first :: items), ts)

/-- The items after the first up to the closing bracket, each after a comma; one more comma may
come last. Those that are yielded together are not given names. -/
def items? : (fuel : Nat) → Bracket → (named : Bool) → List Token →
    Option (List Expr × List Token)
  | 0, _, _, _ => none
  | _ + 1, b, _, .closing c :: ts => if b = c then some ([], ts) else none
  | _ + 1, b, _, .symbol "," :: .closing c :: ts => if b = c then some ([], ts) else none
  | n + 1, b, named, .symbol "," :: ts => do
    let (e, ts) ← if !named && startsAssign ts then none else item? n ts
    let (rest, ts) ← items? n b named ts
    some (e :: rest, ts)
  | _ + 1, _, _, _ => none

/-- What square brackets hold: the items of a list, or a comprehension. -/
def listDisplay? : (fuel : Nat) → List Token → Option (Expr × List Token)
  | 0, _ => none
  | _ + 1, .closing .square :: ts => some (.list [], ts)
  | n + 1, ts => do
    let (first, ts) ← item? n ts
    if startsClause ts then
      if isStarred first then none
      else do
        let (clauses, ts) ← clauses? n ts
        match ts with
        | .closing .square :: ts => some (.comprehension .list (first, none) clauses, ts)
        | _ => none
    else do
      let (items, ts) ← items? n .square true ts
      some (.list (first :: items), ts)

/-- What curly brackets hold: the entries of a dictionary, the items of a set, or a comprehension.
-/
def curlyDisplay? : (fuel : Nat) → List Token → Option (Expr × List Token)
  | 0, _ => none
  | _ + 1, .closing .curly :: ts => some (.dict [], ts)
  | n + 1, .symbol "**" :: ts => do
    let (first, ts) ← entry? n (.symbol "**" :: ts)
    let (entries, ts) ← entries? n ts
    some (.dict (first :: entries), ts)
  | n + 1, start => do
    let (first, ts) ← item? n start
    match ts with
    | .symbol ":" :: ts => do
      if isStarred first || startsAssign start then none
      let (value, ts) ← expression? n ts
      if startsClause ts then do
        let (clauses, ts) ← clauses? n ts
        match ts with
        | .closing .curly :: ts => some (.comprehension .dict (first, some value) clauses, ts)
        | _ => none
      else do
        let (entries, ts) ← entries? n ts
        some (.dict ((some first, value) :: entries), ts)
    | ts =>
      if startsClause ts then
        if isStarred first then none
        else do
          let (clauses, ts) ← clauses? n ts
          match ts with
          | .closing .curly :: ts => some (.comprehension .set (first, none) clauses, ts)
          | _ => none
      else do
        let (items, ts) ← items? n .curly true ts
        some (.set (first :: items), ts)

/-- A key and its value, or a dictionary to unpack. -/
def entry? : (fuel : Nat) → List Token → Option ((Option Expr × Expr) × List Token)
  | 0, _ => none
  | n + 1, .symbol "**" :: ts =>
    (binary? n binaryLevels ts).map fun (e, ts) => ((none, e), ts)
  | n + 1, ts => do
    let (key, ts) ← expression? n ts
    match ts with
    | .symbol ":" :: ts => do
      let (value, ts) ← expression? n ts
      some ((some key, value), ts)
    | _ => none

/-- The entries after the first up to the closing bracket. -/
def entries? : (fuel : Nat) → List Token → Option (List (Option Expr × Expr) × List Token)
  | 0, _ => none
  | _ + 1, .closing .curly :: ts => some ([], ts)
  | _ + 1, .symbol "," :: .closing .curly :: ts => some ([], ts)
  | n + 1, .symbol "," :: ts => do
    let (e, ts) ← entry? n ts
    let (rest, ts) ← entries? n ts
    some (e :: rest, ts)
  | _ + 1, _ => none

/-- What the elements of a comprehension are assigned to, up to `in`. -/
def loopTarget? : (fuel : Nat) → List Token → Option (Target × List Token)
  | 0, _ => none
  | n + 1, ts => do
    let (targets, comma, ts) ← targets? n ts
    match ts with
    | .keyword "in" :: ts => if targets.isEmpty then none else (joined? targets comma).map (·, ts)
    | _ => none

/-- Targets with commas between them, and whether a comma comes after the last. -/
def targets? : (fuel : Nat) → List Token → Option (List Target × Bool × List Token)
  | 0, _ => none
  | _ + 1, .closing b :: ts => some ([], false, .closing b :: ts)
  | _ + 1, .keyword "in" :: ts => some ([], false, .keyword "in" :: ts)
  | n + 1, ts => do
    let (t, ts) ← target? n ts
    match ts with
    | .symbol "," :: ts => do
      let (rest, comma, ts) ← targets? n ts
      some (t :: rest, comma || rest.isEmpty, ts)
    | ts => some ([t], false, ts)

/-- A single target. -/
def target? : (fuel : Nat) → List Token → Option (Target × List Token)
  | 0, _ => none
  | n + 1, .symbol "*" :: ts => do
    let (t, ts) ← target? n ts
    if t.isRest then none else some (.rest t, ts)
  | n + 1, start =>
    match primary? n start with
    | some (.name x, ts) => some (.name x, ts)
    | some (.attribute e x, ts) => some (.attribute e x, ts)
    | some (.subscript e index, ts) => some (.subscript e index, ts)
    | _ =>
      match start with
      | .opening .round :: ts => do
        let (targets, comma, ts) ← targets? n ts
        match ts with
        | .closing .round :: ts => (joined? targets comma).map (·, ts)
        | _ => none
      | .opening .square :: ts => do
        let (targets, _, ts) ← targets? n ts
        match ts with
        | .closing .square :: ts => (sequence? targets).map (·, ts)
        | _ => none
      | _ => none

/-- The clauses of a comprehension. -/
def clauses? : (fuel : Nat) → List Token →
    Option (List (Target × Expr × List Expr) × List Token)
  | 0, _ => none
  | n + 1, .keyword "for" :: ts => do
    let (clause, ts) ← clause? n ts
    let (rest, ts) ← clauses? n ts
    some (clause :: rest, ts)
  | n + 1, .keyword "async" :: .keyword "for" :: ts => do
    let ((target, source, conditions), ts) ← clause? n ts
    let (rest, ts) ← clauses? n ts
    some ((.awaited target, source, conditions) :: rest, ts)
  | _ + 1, ts => some ([], ts)

/-- A clause after its keyword. -/
def clause? : (fuel : Nat) → List Token → Option ((Target × Expr × List Expr) × List Token)
  | 0, _ => none
  | n + 1, ts => do
    let (target, ts) ← loopTarget? n ts
    let (source, ts) ← disjunction? n ts
    let (conditions, ts) ← conditions? n ts
    some ((target, source, conditions), ts)

/-- The conditions of a clause. -/
def conditions? : (fuel : Nat) → List Token → Option (List Expr × List Token)
  | 0, _ => none
  | n + 1, .keyword "if" :: ts => do
    let (e, ts) ← disjunction? n ts
    let (rest, ts) ← conditions? n ts
    some (e :: rest, ts)
  | _ + 1, ts => some ([], ts)

/-- The index or slice that a subscript holds; several make up a tuple. -/
def subscript? : (fuel : Nat) → List Token → Option (Expr × List Token)
  | 0, _ => none
  | n + 1, ts => do
    let (first, ts) ← slice? n ts
    match ts with
    | .closing .square :: ts => some (if isStarred first then .tuple [first] else first, ts)
    | ts => do
      let (rest, ts) ← slices? n ts
      some (.tuple (first :: rest), ts)

/-- The slices after the first up to the closing bracket. -/
def slices? : (fuel : Nat) → List Token → Option (List Expr × List Token)
  | 0, _ => none
  | _ + 1, .closing .square :: ts => some ([], ts)
  | _ + 1, .symbol "," :: .closing .square :: ts => some ([], ts)
  | n + 1, .symbol "," :: ts => do
    let (e, ts) ← slice? n ts
    let (rest, ts) ← slices? n ts
    some (e :: rest, ts)
  | _ + 1, _ => none

/-- An index, a slice, or indices to unpack. -/
def slice? : (fuel : Nat) → List Token → Option (Expr × List Token)
  | 0, _ => none
  | n + 1, .symbol "*" :: ts => (expression? n ts).map fun (e, ts) => (.starred e, ts)
  | n + 1, .symbol ":" :: ts => sliceAfter? n none ts
  | n + 1, start => do
    let (first, ts) ← named? n start
    match ts with
    | .symbol ":" :: ts => if startsAssign start then none else sliceAfter? n (some first) ts
    | ts => some (first, ts)

/-- The slice with the given start, read from its first colon on. -/
def sliceAfter? : (fuel : Nat) → (start : Option Expr) → List Token → Option (Expr × List Token)
  | 0, _, _ => none
  | n + 1, start, ts => do
    let (stop, ts) ← bound? n ts
    match ts with
    | .symbol ":" :: ts => do
      let (step, ts) ← bound? n ts
      some (.slice start stop step, ts)
    | ts => some (.slice start stop none, ts)

/-- A bound of a slice, which can be left out. -/
def bound? : (fuel : Nat) → List Token → Option (Option Expr × List Token)
  | 0, _ => none
  | _ + 1, .symbol ":" :: ts => some (none, .symbol ":" :: ts)
  | _ + 1, .symbol "," :: ts => some (none, .symbol "," :: ts)
  | _ + 1, .closing b :: ts => some (none, .closing b :: ts)
  | n + 1, ts => (expression? n ts).map fun (e, ts) => (some e, ts)

/-- The arguments of a call after the given ones. A generator without brackets of its own is the
only argument. -/
def arguments? : (fuel : Nat) → List (ArgumentKind × Expr) → List Token →
    Option (List (ArgumentKind × Expr) × List Token)
  | 0, _, _ => none
  | _ + 1, done, .closing .round :: ts => some (done.reverse, ts)
  | n + 1, done, ts => do
    let (argument, ts) ← argument? n ts
    if !mayFollow argument.1 (done.map (·.1)) then none
    else
      match ts with
      | .closing .round :: ts => some ((argument :: done).reverse, ts)
      | .symbol "," :: ts => arguments? n (argument :: done) ts
      | ts =>
        if startsClause ts ∧ argument.1 = .positional ∧ done = [] then do
          let (clauses, ts) ← clauses? n ts
          match ts with
          | .closing .round :: ts =>
            some ([(.positional, .comprehension .generator (argument.2, none) clauses)], ts)
          | _ => none
        else none

/-- A single argument. -/
def argument? : (fuel : Nat) → List Token → Option ((ArgumentKind × Expr) × List Token)
  | 0, _ => none
  | n + 1, .symbol "*" :: ts => (expression? n ts).map fun (e, ts) => ((.unpacked, e), ts)
  | n + 1, .symbol "**" :: ts =>
    (expression? n ts).map fun (e, ts) => ((.unpackedNamed, e), ts)
  | n + 1, .name x :: .symbol "=" :: ts =>
    (expression? n ts).map fun (e, ts) => ((.named x, e), ts)
  | n + 1, ts => (named? n ts).map fun (e, ts) => ((.positional, e), ts)

end

/-- Expressions with commas between them make up a tuple. -/
def expressions? (fuel : Nat) (ts : List Token) : Option (Expr × List Token) := do
  let (first, ts) ← expression? names fuel ts
  match ts with
  | .symbol "," :: _ =>
    let (items, ts) ← more fuel ts
    some (.tuple (first :: items), ts)
  | ts => some (first, ts)
where
  /-- The expressions after the first, each after a comma. -/
  more : Nat → List Token → Option (List Expr × List Token)
    | 0, _ => none
    | _ + 1, [.symbol ","] => some ([], [])
    | n + 1, .symbol "," :: ts => do
      let (e, ts) ← expression? names n ts
      let (rest, ts) ← more n ts
      some (e :: rest, ts)
    | _ + 1, ts => some ([], ts)

end

end Stencil.Expr
