import ShapeKit.Toml.Document
import ShapeKit.Storage.FileSystem
import ShapeKit.Json.Decode
import ShapeKit.Decimal.Shortest
import ShapeKit.Cli.Output

/-!
# Configuration

A project keeps its settings in `.shape/config.toml`; the user keeps theirs
in `config.toml` of the configuration directory. Both files are optional:
a missing file means the defaults.

Project settings: `sources` (model files or directories, default
`["model"]`), `allow_unknown_traits` (default false), `severity` (the least
severity reported, default `"warning"`) and a `[validators]` table with
`disabled`, `timestamp_patterns` and `lint`. User settings:
`default_format`, `text` or `json`. Unknown keys are ignored.

A value of the wrong kind is reported with the span of the value, in the
words of a typed decoder: `invalid type: string "Target", expected a
sequence`.

Failures carry the contexts they were reported in, outermost first, and
their root cause; the message is all of them joined by `: `.
-/

namespace ShapeKit

open Json

/-! ## §1. Failures -/

/-- The root cause of a failure. -/
inductive Cause where
  | notInProject
  | noSources
  | configInvalid (message : String)
  | configParse (message : String)
  | validator (e : ValidatorError)
  | load (e : LoadError)
  | io (e : IoError)
  | other (message : String)

/-- The text of the error a load error wraps, if any. -/
def LoadError.inner? : LoadError → Option String
  | .invalidShapeId _ e => some e.message
  | .json _ e => some e.message
  | .io _ c => some c
  | _ => none

namespace Cause

/-- The name of the cause's kind. -/
def kind : Cause → String
  | .notInProject => "NotInProject"
  | .noSources => "NoSources"
  | .configInvalid _ => "ConfigInvalid"
  | .configParse _ => "ConfigParse"
  | .validator e => e.kind
  | .load _ => "LoadError"
  | .io _ => "Io"
  | .other _ => "Error"

/-- The messages of the cause and of the errors beneath it. -/
def texts : Cause → List String
  | .notInProject => ["Not in a shape project. Run 'shape init' first."]
  | .noSources => ["No model sources found. Pass files or set `sources` in .shape/config.toml"]
  | .configInvalid m => ["Invalid configuration: " ++ m]
  | .configParse m => ["Failed to parse configuration: " ++ m]
  | .validator e => [e.message]
  | .load e => [e.message] ++ e.inner?.toList
  | .io e => [e.text]
  | .other m => [m]

end Cause

/-- A failure: the contexts it was reported in, outermost first, and its
cause. -/
structure Failure where
  contexts : List String := []
  cause : Cause

namespace Failure

/-- The kind of the failure, from its cause. -/
def kind (f : Failure) : String := f.cause.kind

/-- The whole message: contexts and causes joined by `: `. -/
def message (f : Failure) : String := ": ".intercalate (f.contexts ++ f.cause.texts)

/-- The failure reported within one more context. -/
def within (f : Failure) (context : String) : Failure := { f with contexts := context :: f.contexts }

/-- The failure as a JSON error object. -/
def toNode (f : Failure) : Node := .obj [("error", .str f.kind), ("message", .str f.message)]

end Failure

/-! ## §2. Settings -/

/-- The `[validators]` table. -/
structure ValidatorsConfig where
  disabled : List String := []
  timestampPatterns : List String := []
  lint : Bool := false
deriving DecidableEq, Repr

/-- The settings of a project. -/
structure ProjectConfig where
  sources : List String := ["model"]
  allowUnknownTraits : Bool := false
  severity : String := "warning"
  validators : ValidatorsConfig := {}
deriving DecidableEq, Repr

/-- The settings of the user. -/
structure GlobalConfig where
  defaultFormat : Cli.Format := .text
deriving DecidableEq, Repr

/-- The settings in force: the project's, the user's, and the project root
if there is a project. -/
structure Config where
  project : ProjectConfig := {}
  global : GlobalConfig := {}
  projectRoot : Option String := none

/-- The least severity reported. -/
def ProjectConfig.minSeverity (c : ProjectConfig) : Except Cause Severity :=
  match Severity.parse c.severity with
  | .ok s => .ok s
  | .error msg => .error (.configInvalid ("severity: " ++ msg))

/-- The validator the settings describe. -/
def ProjectConfig.modelValidator (c : ProjectConfig) : Except ValidatorError ModelValidator :=
  ModelValidator.configured c.validators.disabled c.validators.lint c.validators.timestampPatterns

/-- Whether the settings belong to a project. -/
def Config.inProject (c : Config) : Bool := c.projectRoot.isSome

/-- The configured sources, relative ones read from the project root (or
the current directory outside a project). -/
def Config.sources (c : Config) : List String :=
  let root := c.projectRoot.getD "."
  c.project.sources.map fun s => if Path.isAbsolute s then s else Path.join root s

/-! ## §3. Decoding -/

namespace Toml

/-- The text of a float value as a message shows it: positional, with a
decimal point when finite. -/
def floatText (text : String) : String :=
  match Decimal.readFloat? text with
  | some f =>
    let t := Decimal.plainText f
    if f.isNaN || f.isInf || t.contains '.' then t else t ++ ".0"
  | none => text

/-- What a message calls a value it did not expect. -/
def Value.unexpected : Value → String
  | .string s => s!"string {debugQuote s}"
  | .integer i => s!"integer `{i}`"
  | .float t => s!"floating point `{floatText t}`"
  | .boolean b => s!"boolean `{b}`"
  | .datetime _ => "map"
  | .array _ => "sequence"
  | .inlineTable _ _ => "map"

/-- What a message calls an item it did not expect. -/
def Item.unexpected : Item → String
  | .value v _ => v.unexpected
  | .table .. => "map"
  | .arrayOfTables .. => "sequence"

/-- The result of decoding: a value, or a message with the span it is about
once that is known. -/
abbrev Decoded (α : Type) := Except (String × Option Span) α

/-- Gives a failure without a span the span given. -/
def located {α : Type} (s : Option Span) : Decoded α → Decoded α
  | .error (m, none) => .error (m, s)
  | r => r

/-- An item of the wrong kind. -/
def mismatch {α : Type} (it : Item) (expected : String) : Decoded α :=
  .error (s!"invalid type: {it.unexpected}, expected {expected}", it.span)

/-- The elements of an item read as a sequence: the items of an array or the
tables of an array of tables. -/
def Item.elements? : Item → Option (List Item)
  | .value (.array items) _ => some (items.map fun (v, s) => .value v (some s))
  | .arrayOfTables ts _ => some (ts.map fun (es, s) => .table es false false s)
  | _ => none

/-- The entries of an item read as a map: a table or an inline table. -/
def Item.entries? : Item → Option (List (Key × Item))
  | .table es _ _ _ => some es
  | .value (.inlineTable es _) _ => some (es.map fun (k, v, s) => (k, .value v s))
  | _ => none

/-- A boolean. -/
def asBool : Item → Decoded Bool
  | .value (.boolean b) _ => .ok b
  | it => mismatch it "a boolean"

/-- A string, with what the decoder expects named. -/
def asString (expected : String) : Item → Decoded String
  | .value (.string t) _ => .ok t
  | it => mismatch it expected

/-- A list of strings. -/
def asStrings (expected : String) (it : Item) : Decoded (List String) :=
  match it.elements? with
  | some xs => xs.mapM (asString expected)
  | none => mismatch it "a sequence"

/-- Decodes the fields of a record from a table's entries, in order; a
failure without a span of its own points at the entry's key. Unknown keys are
ignored. -/
def fields {σ : Type} (init : σ) (field : σ → String → Item → Decoded σ)
    (es : List (Key × Item)) : Decoded σ :=
  es.foldlM (fun c (k, it) => located (some k.span) (field c k.name it)) init

/-- One field of the `[validators]` table. -/
def validatorsField (c : ValidatorsConfig) : String → Item → Decoded ValidatorsConfig
  | "disabled", it => return { c with disabled := ← asStrings "a string" it }
  | "timestamp_patterns", it => return { c with timestampPatterns := ← asStrings "a string" it }
  | "lint", it => return { c with lint := ← asBool it }
  | _, _ => .ok c

/-- The `[validators]` table: a table, or its fields in order as a sequence.
A date-time reads as a map whose only key names no field. -/
def asValidators (it : Item) : Decoded ValidatorsConfig :=
  match it.entries?, it.elements?, it with
  | some es, _, _ => fields {} validatorsField es
  | none, some xs, _ => do
    let c : ValidatorsConfig := {}
    let c ← match xs[0]? with
      | some i => pure { c with disabled := ← asStrings "a string" i }
      | none => pure c
    let c ← match xs[1]? with
      | some i => pure { c with timestampPatterns := ← asStrings "a string" i }
      | none => pure c
    match xs[2]? with
    | some i => return { c with lint := ← asBool i }
    | none => pure c
  | none, none, .value (.datetime _) _ => .ok {}
  | none, none, _ => mismatch it "struct ValidatorsConfig"

/-- One field of the project settings. -/
def projectField (c : ProjectConfig) : String → Item → Decoded ProjectConfig
  | "sources", it => return { c with sources := ← asStrings "path string" it }
  | "allow_unknown_traits", it => return { c with allowUnknownTraits := ← asBool it }
  | "severity", it => return { c with severity := ← asString "a string" it }
  | "validators", it => return { c with validators := ← asValidators it }
  | _, _ => .ok c

/-- The settings of a project from a document's entries. -/
def asProjectConfig (entries : List (Key × Item)) : Decoded ProjectConfig :=
  fields {} projectField entries

/-- An output format by name. -/
def formatVariant (name : String) : Decoded Cli.Format :=
  match name with
  | "text" => .ok .text
  | "json" => .ok .json
  | _ => .error (s!"unknown variant `{name}`, expected `text` or `json`", none)

/-- The content of a variant that carries nothing: an empty array or table. -/
def unitContent : Item → Decoded Unit
  | .arrayOfTables ts s => if ts.isEmpty then .ok () else .error ("expected empty array", s)
  | .value (.array xs) s => if xs.isEmpty then .ok () else .error ("expected empty array", s)
  | .table es _ _ s => if es.isEmpty then .ok () else .error ("expected empty table", s)
  | .value (.inlineTable es _) s => if es.isEmpty then .ok () else .error ("expected empty table", s)
  | .value v s =>
    let kind := v.typeName
    .error (s!"expected table, found {kind}", s)

/-- A variant given as a table's entry: its key names it, and its value must
be empty. -/
def formatEntry (k : Key) (it : Item) : Decoded Cli.Format := do
  let f ← located (some k.span) (formatVariant k.name)
  unitContent it
  return f

/-- An output format: `text` or `json`, as a string or a one-entry table. -/
def asFormat (it : Item) : Decoded Cli.Format :=
  located it.span <|
    match it with
    | .value (.string t) _ => formatVariant t
    | .value (.inlineTable es _) s =>
      match es with
      | [] => .error ("wanted exactly 1 element, found 0 elements", s)
      | [(k, v, vs)] => formatEntry k (.value v vs)
      | _ => .error ("wanted exactly 1 element, more than 1 element", s)
    | .table es _ _ s =>
      match es with
      | [] => .error ("expected table with exactly 1 entry, found empty table", s)
      | (k, v) :: _ => formatEntry k v
    | _ => .error ("wanted string or table", it.span)

/-- One field of the user settings. -/
def globalField (c : GlobalConfig) : String → Item → Decoded GlobalConfig
  | "default_format", it => return { c with defaultFormat := ← asFormat it }
  | _, _ => .ok c

/-- The settings of the user from a document's entries. -/
def asGlobalConfig (entries : List (Key × Item)) : Decoded GlobalConfig :=
  fields {} globalField entries

/-- Reads a document and decodes it; an error is rendered against the text. -/
def decode {α : Type} (f : List (Key × Item) → Decoded α) (text : String) : Except String α :=
  match parse text with
  | .error e => .error (e.render text)
  | .ok root =>
    match f root with
    | .ok a => .ok a
    | .error (m, s) => .error (Error.render ⟨m, s⟩ text)

end Toml

/-! ## §4. Loading -/

namespace Config

open FileSystem

variable {m : Type → Type} [Monad m] [FileSystem m]

/-- The user's configuration directory. -/
def globalDir : m (Option String) := FileSystem.configDir

/-- The user's settings: defaults when there is no file. -/
def loadGlobal : m (Except Failure GlobalConfig) := do
  match ← globalDir with
  | none => return .ok {}
  | some dir =>
    let path := Path.join dir "config.toml"
    if !(← exists? path) then return .ok {}
    match ← readFile path with
    | .error e => return .error { contexts := [s!"Failed to read global config: {path}"], cause := .io e }
    | .ok text =>
      match Toml.decode Toml.asGlobalConfig text with
      | .ok g => return .ok g
      | .error msg => return .error { contexts := ["Failed to parse global config"], cause := .configParse msg }

/-- The settings of the project at a root: defaults when there is no file. -/
def loadProjectConfig (root : String) : m (Except Failure ProjectConfig) := do
  let path := Path.join (Path.join root ".shape") "config.toml"
  if !(← exists? path) then return .ok {}
  match ← readFile path with
  | .error e => return .error { contexts := [s!"Failed to read project config: {path}"], cause := .io e }
  | .ok text =>
    match Toml.decode Toml.asProjectConfig text with
    | .error msg => return .error { contexts := ["Failed to parse project config"], cause := .configParse msg }
    | .ok c =>
      match c.minSeverity with
      | .ok _ => return .ok c
      | .error cause => return .error { contexts := [s!"Invalid project config: {path}"], cause }

/-- The nearest directory holding a `.shape` directory, from a start path
up through its parents. -/
def findProjectRootFrom (start : String) : m (Option String) :=
  go ((Path.parts start).length + 2) start
where
  /-- Tries `p`, then its parent. -/
  go : Nat → String → m (Option String)
  | 0, _ => pure none
  | fuel + 1, p => do
    if ← isDir (Path.join p ".shape") then return some p
    match Path.parent? p with
    | some q => go fuel q
    | none => return none

/-- The project root above the current directory, if any. -/
def findProjectRoot : m (Option String) := do
  findProjectRootFrom (← currentDir)

/-- The settings for a given project root. -/
def forProject (root : String) : m (Except Failure Config) := do
  match ← loadGlobal with
  | .error f => return .error f
  | .ok global =>
    match ← loadProjectConfig root with
    | .error f => return .error f
    | .ok project => return .ok { project, global, projectRoot := some root }

/-- The settings in force here: the user's, and the project's if the current
directory is in one. -/
def load : m (Except Failure Config) := do
  match ← loadGlobal with
  | .error f => return .error f
  | .ok global =>
    match ← findProjectRoot with
    | none => return .ok { global }
    | some root =>
      match ← loadProjectConfig root with
      | .error f => return .error f
      | .ok project => return .ok { project, global, projectRoot := some root }

end Config

/-! ## §5. JSON forms -/

/-- The `[validators]` table as JSON. -/
def ValidatorsConfig.toNode (c : ValidatorsConfig) : Node :=
  .obj [("disabled", .arr (c.disabled.map Node.str)),
    ("timestamp_patterns", .arr (c.timestampPatterns.map Node.str)), ("lint", .bool c.lint)]

/-- The project settings as JSON. -/
def ProjectConfig.toNode (c : ProjectConfig) : Node :=
  .obj [("sources", .arr (c.sources.map Node.str)), ("allow_unknown_traits", .bool c.allowUnknownTraits),
    ("severity", .str c.severity), ("validators", c.validators.toNode)]

/-- The user settings as JSON. -/
def GlobalConfig.toNode (c : GlobalConfig) : Node := .obj [("default_format", .str c.defaultFormat.name)]

/-- The settings in force as JSON, with the derived sources and severity. -/
def Config.toNode (c : Config) : Node :=
  .obj [("project", c.project.toNode), ("global", c.global.toNode),
    ("project_root", match c.projectRoot with
      | some r => .str r
      | none => .null),
    ("in_project", .bool c.inProject), ("sources", .arr (c.sources.map Node.str)),
    ("min_severity", match c.project.minSeverity with
      | .ok s => .str s.name
      | .error cause => Failure.toNode { cause })]

end ShapeKit
