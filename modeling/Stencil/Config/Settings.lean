import Stencil.Config.Toml.Parse
import Stencil.Render.Options

/-!
# Settings

Defaults for render calls that are read from a section of a configuration file (`Settings.load`). A
file that cannot be used gives no settings and a notice of what is wrong with it.
-/

namespace Stencil

/-- The settings that a file makes; those that it does not make are left open. -/
structure Settings where
  opening : Option Text
  closing : Option Text
  literal : Option Bool
  transformer : Option Text
  na : Option Text
  sep : Option Text
  trim : Option Bool
  comment : Option Text
  broadcast : Option BroadcastPolicy
  dialect : Option Text
  deriving DecidableEq, Repr

/-- An item of a document as a value. What no setting can be is an object. -/
def Toml.Item.value : Toml.Item → Value
  | text s => .text s
  | bool b => .bool b
  | int i => .int i
  | float x => .float x 0
  | moment _ => .object 0 "moment" [] false
  | array _ => .object 0 "array" [] false
  | table _ => .object 0 "table" [] false

namespace Settings

/-- No settings. -/
def none : Settings :=
  ⟨.none, .none, .none, .none, .none, .none, .none, .none, .none, .none⟩

/-- The checked value of a setting, if it is made. -/
def field {α : Type} (entries : List (Text × Toml.Item)) (f : OptionField)
    (read : Value → Except OptionFault α) : Checked (Option α) :=
  match entries.lookup f.name with
  | .none => .ok .none
  | some item => ((read item.value).map some).mapError fun fault => [⟨f, fault⟩]

/-- The settings in the entries of a section. Delimiters and comment characters are only checked
when the settings are used. -/
def ofEntries (entries : List (Text × Toml.Item)) : Checked Settings :=
  let start : Checked _ := .ok mk
  start
    |>.apply (field entries .openDelimiter Value.readText)
    |>.apply (field entries .closeDelimiter Value.readText)
    |>.apply (field entries .literal Value.readTruth)
    |>.apply (field entries .transformer Value.readText)
    |>.apply (field entries .na Value.readText)
    |>.apply (field entries .sep Value.readText)
    |>.apply (field entries .trim Value.readTruth)
    |>.apply (field entries .comment Value.readText)
    |>.apply (field entries .broadcast Value.readPolicy)
    |>.apply (field entries .dialect Value.readText)

end Settings

/-! ## Files -/

/-- What stands at the place of a configuration file. -/
inductive ConfigFile
  | missing
  | directory
  | content (bytes : List UInt8)
  deriving DecidableEq, Repr

/-- Whether there is a file. -/
def ConfigFile.isFile : ConfigFile → Bool
  | content _ => true
  | _ => false

/-- What is wrong with a configuration file that is left alone. -/
inductive ConfigNotice
  | notTable
  | malformed
  | invalid
  | unreadable
  deriving DecidableEq, Repr

/-- What a notice says about the file at `path`, whose section is `name`. All but one go on with
what the reader that gave up has to say. -/
def ConfigNotice.message (name path detail : Text) : ConfigNotice → Text
  | notTable => ['\''] ++ name ++ "' in ".toList ++ path ++ " must be a table".toList
  | malformed => "Failed to parse ".toList ++ path ++ ": ".toList ++ detail
  | invalid => "Invalid configuration in ".toList ++ path ++ ": ".toList ++ detail
  | unreadable => "Could not read ".toList ++ path ++ ": ".toList ++ detail

/-- The lines that a notice is shown as. -/
def ConfigNotice.lines (name path detail : Text) (n : ConfigNotice) : List Text := [
  "[yellow]Warning:[/yellow] ".toList ++ n.message name path detail,
  "[yellow]Using default settings[/yellow]".toList]

/-- Where notices are shown: what readers that give up a file have to say about it, and the lines
that are refused, which a console does whose markup they get wrong. Values of the file can be part
of what is said. -/
structure Console where
  detail : (path : Text) → ConfigFile → ConfigNotice → Text
  refuses : Text → Bool

/-- A console that shows everything, for readers that have nothing to say. -/
def Console.plain : Console := ⟨fun _ _ _ => [], fun _ => false⟩

namespace Settings

/-- The settings in the section `name` of a document. -/
def ofDocument (name : Text) (document : List (Text × Toml.Item)) :
    Settings × Option ConfigNotice :=
  match document.lookup name with
  | .none => (none, .none)
  | some (.table entries) =>
    match ofEntries entries with
    | .ok s => (s, .none)
    | .error _ => (none, some .invalid)
  | some _ => (none, some .notTable)

/-- The settings in the section `name` of a file, and the notice if the file is left alone. -/
def read (name : Text) : ConfigFile → Except Problem (Settings × Option ConfigNotice)
  | .missing => .ok (none, .none)
  | .directory => .ok (none, some .unreadable)
  | .content bytes =>
    match Text.ofUtf8? bytes with
    | .none => .error .noBytes
    | some s =>
      match Toml.document s with
      | .ok document => .ok (ofDocument name document)
      | .error .malformed => .ok (none, some .malformed)
      | .error .longNumber => .error (.fault (.value "a number has too many digits"))
      | .error .deepNesting => .error (.fault .depth)

/-- The lines that a console is given for a file at `path`: those of the notice, if there is one. -/
def shown (c : Console) (name path : Text) (file : ConfigFile) (notice : Option ConfigNotice) :
    List Text :=
  notice.elim [] fun n => n.lines name path (c.detail path file n)

/-- Shows lines in order, up to the first one that is refused. -/
def showLines (c : Console) (lines : List Text) : Except Problem Unit :=
  match lines.find? c.refuses with
  | some line => .error (.markup line)
  | .none => .ok ()

/-- The settings in the section `name` of the file at `path`. If the file is left alone, the notice
is shown first. -/
def load (c : Console) (name path : Text) (file : ConfigFile) :
    Except Problem (Settings × Option ConfigNotice) := do
  let (s, notice) ← read name file
  showLines c (shown c name path file notice)
  return (s, notice)

/-- The settings in the section `name` of a file that is looked for first. What is no file is not
found. -/
def loadFound (c : Console) (name path : Text) (file : ConfigFile) :
    Except Problem (Settings × Option ConfigNotice) :=
  if file.isFile then load c name path file else .ok (none, .none)

/-- The settings that are made, as options are given. -/
def given (s : Settings) : GivenOptions :=
  let set (f : OptionField) (v : Option Value) : GivenOptions :=
    (v.map fun v => (f.name, .value v)).toList
  set .openDelimiter (s.opening.map .text) ++
  set .closeDelimiter (s.closing.map .text) ++
  set .literal (s.literal.map .bool) ++
  set .transformer (s.transformer.map .text) ++
  set .na (s.na.map .text) ++
  set .sep (s.sep.map .text) ++
  set .trim (s.trim.map .bool) ++
  set .comment (s.comment.map .text) ++
  set .broadcast (s.broadcast.map fun p => .text p.name)

end Settings

/-- The options that settings make, with what a caller gives over them. -/
def Options.ofSettings (s : Settings) (top : GivenOptions) : Checked Options :=
  ofGiven (s.given.overlay top)

end Stencil
