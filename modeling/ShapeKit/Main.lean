import ShapeKit.Cli.Run

/-!
# The `shape` program

The command line run against the real file system: the arguments go to
`Cli.run`, its standard output and standard error texts are printed, and its
status is the exit code.

The user's configuration directory is `$XDG_CONFIG_HOME/shape` when that
variable holds an absolute path, otherwise `$HOME/.config/shape`.
-/

namespace ShapeKit

/-- The file system failure an operating system error stands for. -/
def ioErrorOf : IO.Error → IoError
  | .noFileOrDirectory .. => .notFound
  | .alreadyExists .. => .alreadyExists
  | .inappropriateType _ 21 _ => .isDirectory
  | .inappropriateType _ 20 _ => .notDirectory
  | e => .other (toString e)

/-- Runs an action, turning its failure into a value. -/
def captureIO {α : Type} (x : IO α) : IO (Except IoError α) := do
  try return .ok (← x) catch e => return .error (ioErrorOf e)

/-- The user's home configuration directory for this program. -/
def homeConfigDir : IO (Option String) := do
  match ← IO.getEnv "HOME" with
  | some home => return some (home ++ "/.config/shape")
  | none => return none

instance : FileSystem IO where
  kind p := captureIO do
    let md ← (System.mkFilePath [p]).metadata
    return if md.type == .dir then .directory else .file
  readFile p := captureIO (IO.FS.readFile p)
  readDir p := captureIO do
    let entries ← (System.mkFilePath [p]).readDir
    return entries.toList.map (·.fileName)
  createDir p := captureIO (IO.FS.createDir p)
  writeFile p t := captureIO (IO.FS.writeFile p t)
  currentDir := do return (← IO.currentDir).toString
  configDir := do
    match ← IO.getEnv "XDG_CONFIG_HOME" with
    | some dir => if dir.startsWith "/" then return some (dir ++ "/shape") else homeConfigDir
    | none => homeConfigDir

end ShapeKit

/-- Runs the `shape` program; a run that never ends stops with an error. -/
def main (args : List String) : IO UInt32 := do
  match ← ShapeKit.Cli.run (m := IO) args with
  | some o =>
    IO.print o.stdout
    IO.eprint o.stderr
    return o.status.toUInt32
  | none => throw (IO.userError "thread 'main' has overflowed its stack")
