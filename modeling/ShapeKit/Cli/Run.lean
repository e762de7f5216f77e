import ShapeKit.Cli.Args
import ShapeKit.Storage.Project
import ShapeKit.Load.Serialize
import ShapeKit.Selector.Eval
import ShapeKit.Diff

/-!
# Running commands

A run of the `shape` program: read the arguments, pick the output format
(the `--format` option, else the user's `default_format`, else text, with an
unreadable configuration ignored), run the command, and report what it
printed and how it ended.

* exit status 0: the command succeeded, or help or the version was asked for
  (printed on standard output);
* exit status 1: the command failed; standard error holds `Error: ` and the
  failure's message;
* exit status 2: the arguments were wrong; standard error holds the error text.

Without files, commands load the sources configured for the project around
the current directory. Inside a project, its validator settings and least
reported severity apply to given files too.
-/

namespace ShapeKit.Cli

open Json

/-- How a run ended: the exit status and the text of both output streams. -/
structure Outcome where
  status : Nat
  stdout : String
  stderr : String
deriving DecidableEq, Repr

/-- A command in progress: it prints to standard output, may fail, and may
never end. -/
abbrev CommandM (m : Type → Type) := ExceptT Failure (StateT String (OptionT m))

variable {m : Type → Type} [Monad m] [FileSystem m]

/-- Prints text. -/
def emit (text : String) : CommandM m Unit := modify (· ++ text)

/-- Runs a storage step, stopping the command on failure. -/
def step {α : Type} (x : m (Except Failure α)) : CommandM m α := do
  match ← (monadLift x : CommandM m (Except Failure α)) with
  | .ok a => pure a
  | .error f => throw f

/-- Runs a file system step. -/
def query {α : Type} (x : m α) : CommandM m α := monadLift x

/-- Goes on with a result, or never ends when there is none. -/
def ends {α : Type} (x : Option α) : CommandM m α :=
  match x with
  | some a => pure a
  | none => monadLift (OptionT.fail : OptionT m α)

/-- Fails with a plain message. -/
def bail {α : Type} (message : String) : CommandM m α := throw { cause := .other message }

/-- An assembled model and the least severity to report for it. -/
structure Loaded where
  result : ValidatedResult
  minSeverity : Severity

/-- Assembles files, or the project's sources when there are none. -/
def loadModel (files : List String) : CommandM m Loaded := do
  let project ← match ← query Config.findProjectRoot with
    | some root => some <$> step (Project.openAt root)
    | none => pure none
  let minSeverity ← match project with
    | some p =>
      match p.config.project.minSeverity with
      | .ok s => pure s
      | .error cause => throw { cause }
    | none => pure Severity.warning
  let result ← if files.isEmpty then
      match project with
      | none => bail "No model files given and not in a shape project"
      | some p => ends (← step p.assemble)
    else do
      let a ← match project with
        | some p =>
          match p.assembler with
          | .ok a => pure a
          | .error f => throw f
        | none => pure ({} : Assembler)
      let imports ← query (FileSystem.importsOf files)
      match { a with sources := files.map .importPath }.assemble imports with
      | .ok r => ends r
      | .error e => throw { contexts := ["Failed to load model"], cause := .load e }
  return { result, minSeverity }

/-- Assembles one file or directory with the default settings. -/
def loadPath (path : String) : CommandM m ValidatedResult := do
  let imports ← query (FileSystem.importsOf [path])
  match ({ sources := [.importPath path] } : Assembler).assemble imports with
  | .ok r => ends r
  | .error e => throw { contexts := [s!"Failed to load model: {path}"], cause := .load e }

/-- The model of a result that is not broken. -/
def modelOf (r : ValidatedResult) (context : Option String) : CommandM m Model :=
  match r.intoResult with
  | .ok model => pure model
  | .error events =>
    throw { contexts := context.toList, cause := .other (ValidatedResult.brokenText events) }

/-- `shape init`. -/
def runInit (f : Format) (path : String) : CommandM m Unit := do
  let p ← step (Project.init path)
  emit (f.success s!"Initialized shape project at {p.root}")

/-- `shape validate`. -/
def runValidate (f : Format) (files : List String) (severity : Option Severity) : CommandM m Unit := do
  let loaded ← loadModel files
  let minSeverity := severity.getD loaded.minSeverity
  let r := loaded.result
  let shown := r.events.filter (·.severity.atLeast minSeverity)
  let summary := Summary.count r.events
  match f with
  | .json =>
    emit (f.data (.obj [("valid", .bool !r.isBroken), ("shapes", .num (.nat r.model.size)),
      ("summary", summary.toNode), ("events", .arr (shown.map Event.toNode))]))
  | .text =>
    emit (f.events shown)
    if !shown.isEmpty then emit "\n"
    emit s!"Validated {r.model.size} shape(s): {summary.text}\n"
  if r.isBroken then bail s!"Model validation failed with {summary.errors} error(s)"

/-- `shape select`. -/
def runSelect (f : Format) (expression : String) (files : List String) : CommandM m Unit := do
  let selector ← match Selector.parse expression with
    | .ok s => pure s
    | .error e => throw { contexts := ["Failed to parse selector"], cause := .other e.text }
  let loaded ← loadModel files
  let model := loaded.result.model
  let ids := selector.select model
  match f with
  | .json =>
    emit (f.data (.arr (ids.map fun id =>
      let shape := model.get? id
      .obj [("id", .str id.text), ("type", .str ((shape.map (·.type.name)).getD "")),
        ("source", .str ((shape.map (·.source.text)).getD "N/A"))])))
  | .text => emit (String.join (ids.map fun id => id.text ++ "\n"))

/-- `shape ast`. -/
def runAst (f : Format) (files : List String) : CommandM m Unit := do
  let loaded ← loadModel files
  let model ← modelOf loaded.result none
  emit (f.data model.toDocument)

/-- `shape diff`. -/
def runDiff (f : Format) (old new : String) : CommandM m Unit := do
  let oldModel ← modelOf (← loadPath old) (some s!"Old model is invalid: {old}")
  let newModel ← modelOf (← loadPath new) (some s!"New model is invalid: {new}")
  let events := compareModels oldModel newModel
  let summary := Summary.count events
  match f with
  | .json => emit (f.data (.obj [("summary", summary.toNode), ("events", .arr (events.map Event.toNode))]))
  | .text =>
    if events.isEmpty then emit "No differences found.\n"
    else
      emit (f.events events)
      emit s!"\n{events.length} difference(s): {summary.text}\n"
  if summary.errors > 0 then bail s!"Found {summary.errors} breaking change(s)"

/-- The output format: the option, else the user's setting, else text. -/
def resolveFormat (flag : Option Format) : m Format := do
  match flag with
  | some f => return f
  | none =>
    match ← Config.load with
    | .ok c => return c.global.defaultFormat
    | .error _ => return .text

/-- Runs a command. -/
def runCommand (f : Format) : Command → CommandM m Unit
  | .init path => runInit f path
  | .validate files severity => runValidate f files severity
  | .select expression files => runSelect f expression files
  | .ast files => runAst f files
  | .diff old new => runDiff f old new

/-- Runs the program with the arguments after its name; `none` when the run
never ends. -/
def run (args : List String) : m (Option Outcome) := do
  match parseArgs args with
  | .error e => return some (if e.isInformation then ⟨0, e.message, ""⟩ else ⟨2, "", e.message⟩)
  | .ok inv =>
    let f ← resolveFormat inv.format
    match ← ((runCommand f inv.command).run.run "").run with
    | none => return none
    | some (.ok (), out) => return some ⟨0, out, ""⟩
    | some (.error failure, out) => return some ⟨1, out, "Error: " ++ failure.message ++ "\n"⟩

end ShapeKit.Cli
