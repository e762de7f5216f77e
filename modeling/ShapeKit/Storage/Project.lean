import ShapeKit.Storage.Config

/-!
# Projects

A project is a directory holding a `.shape` directory. Opening one reads its
settings; initializing one makes `.shape/config.toml` with the default
settings when it is missing and, when there is no `model` entry, a `model`
directory with an example model. Existing files are left as they are, and a
project is opened at the end.

Assembling a project loads the configured sources that exist, in order,
with the project's validator settings.
-/

namespace ShapeKit

/-- The settings file written by `init`. -/
def defaultConfigText : String :=
  "# shape configuration\n\n# Model files or directories to load when none are given on the command line\nsources = [\"model\"]\n\n# Report unknown traits as warnings instead of errors\nallow_unknown_traits = false\n\n# Minimum severity to report: note, warning, danger or error\nseverity = \"warning\"\n\n[validators]\n# Validators that never run\ndisabled = []\n\n# Enable the opt-in linters\nlint = false\n\n# Extra patterns for the timestamp linter\ntimestamp_patterns = []\n"

/-- The example model written by `init`. -/
def exampleModelText : String :=
  "\x7b\n    \"smithy\": \"1.0\",\n    \"shapes\": \x7b\n        \"example#Greeting\": \x7b\n            \"type\": \"structure\",\n            \"members\": \x7b\n                \"message\": \x7b\n                    \"target\": \"String\",\n                    \"traits\": \x7b \"required\": true \x7d\n                \x7d\n            \x7d,\n            \"traits\": \x7b \"documentation\": \"A friendly greeting\" \x7d\n        \x7d\n    \x7d\n\x7d\n"

/-- A project: its root as given, and its settings. -/
structure Project where
  root : String
  config : Config

namespace Project

open FileSystem

variable {m : Type → Type} [Monad m] [FileSystem m]

/-- The project's `.shape` directory. -/
def shapeDir (p : Project) : String := Path.join p.root ".shape"

/-- Opens the project at a root. -/
def openAt (root : String) : m (Except Failure Project) := do
  if !(← isDir (Path.join root ".shape")) then return .error { cause := .notInProject }
  match ← Config.forProject root with
  | .error f => return .error f
  | .ok config => return .ok { root, config }

/-- Opens the project around the current directory. -/
def openCurrent : m (Except Failure Project) := do
  match ← Config.findProjectRoot with
  | none => return .error { cause := .notInProject }
  | some root => Project.openAt root

/-- Makes a directory and its parents, or fails within a context. -/
def makeDir (p context : String) : m (Except Failure Unit) := do
  match ← createDirAll p with
  | .ok () => return .ok ()
  | .error e => return .error { contexts := [context ++ p], cause := .io e }

/-- Writes a file, or fails within a context. -/
def write (p text context : String) : m (Except Failure Unit) := do
  match ← writeFile p text with
  | .ok () => return .ok ()
  | .error e => return .error { contexts := [context ++ p], cause := .io e }

/-- Initializes a project at a root and opens it. -/
def init (root : String) : m (Except Failure Project) := do
  let shape := Path.join root ".shape"
  if let .error f ← makeDir shape "Failed to create .shape directory: " then return .error f
  let configPath := Path.join shape "config.toml"
  if !(← exists? configPath) then
    if let .error f ← write configPath defaultConfigText "Failed to write config: " then return .error f
  let modelDir := Path.join root "model"
  if !(← exists? modelDir) then
    if let .error f ← makeDir modelDir "Failed to create model directory: " then return .error f
    let sample := Path.join modelDir "example.json"
    if let .error f ← write sample exampleModelText "Failed to write model: " then return .error f
  Project.openAt root

/-- An assembler with the project's settings. -/
def assembler (p : Project) : Except Failure Assembler :=
  match p.config.project.modelValidator with
  | .error e => .error { contexts := ["Invalid [validators] configuration"], cause := .validator e }
  | .ok v => .ok { allowUnknownTraits := p.config.project.allowUnknownTraits, validator := v }

/-- Assembles the configured sources that exist; `none` inside when validating
never ends. -/
def assemble (p : Project) : m (Except Failure (Option ValidatedResult)) := do
  let sources ← p.config.sources.filterM exists?
  if sources.isEmpty then return .error { cause := .noSources }
  match p.assembler with
  | .error f => return .error f
  | .ok a =>
    let imports ← importsOf sources
    match { a with sources := sources.map .importPath }.assemble imports with
    | .ok r => return .ok r
    | .error e => return .error { contexts := ["Failed to load model"], cause := .load e }

/-- The project as JSON: its root, its `.shape` directory and its settings. -/
def toNode (p : Project) : Json.Node :=
  .obj [("root", .str p.root), ("shape_dir", .str p.shapeDir), ("config", p.config.toNode)]

end Project

end ShapeKit
