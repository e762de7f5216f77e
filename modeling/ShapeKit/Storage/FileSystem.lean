import ShapeKit.Storage.Path
import ShapeKit.Load.Assembler

/-!
# File systems

The file operations the program needs, as a class over the monad they run
in: the kind of an entry, reading a file, listing a directory, making one
directory, writing a file, the current directory and the directory of the
user's configuration. Relative paths are read from the current directory.

On top of these: `createDirAll` makes a directory with its missing parents,
and `modelFiles` finds the model files of a path (the path itself if it is a
file, otherwise every `.json` file below it, in path order). `importFiles`
reads them for the assembler.

A failure is an `IoError`, printed the way the operating system words it.
-/

namespace ShapeKit

/-- Why a file operation failed. -/
inductive IoError where
  | notFound
  | alreadyExists
  | isDirectory
  | notDirectory
  | other (text : String)
deriving DecidableEq, Repr

/-- The text of a failure. -/
def IoError.text : IoError → String
  | .notFound => "No such file or directory (os error 2)"
  | .alreadyExists => "File exists (os error 17)"
  | .isDirectory => "Is a directory (os error 21)"
  | .notDirectory => "Not a directory (os error 20)"
  | .other t => t

/-- What a path names. -/
inductive EntryKind where
  | file
  | directory
deriving DecidableEq, Repr

/-- The file operations the program uses. -/
class FileSystem (m : Type → Type) where
  /-- What a path names. -/
  kind : String → m (Except IoError EntryKind)
  /-- The text of a file. -/
  readFile : String → m (Except IoError String)
  /-- The names of a directory's entries. -/
  readDir : String → m (Except IoError (List String))
  /-- Makes one directory; its parent must exist. -/
  createDir : String → m (Except IoError Unit)
  /-- Writes a file, replacing what it held. -/
  writeFile : String → String → m (Except IoError Unit)
  /-- The absolute path of the current directory. -/
  currentDir : m String
  /-- The directory of the user's configuration for this program, if known. -/
  configDir : m (Option String)

namespace FileSystem

variable {m : Type → Type} [Monad m] [FileSystem m]

/-- Whether a path names anything. -/
def exists? (p : String) : m Bool := do
  return (← kind p).toBool

/-- Whether a path names a directory. -/
def isDir (p : String) : m Bool := do
  return (← kind p) matches .ok .directory

/-- Makes a directory and its missing parents. A directory that already
exists is fine; anything else in the way is an error. -/
def createDirAll (p : String) : m (Except IoError Unit) :=
  go ((Path.parts p).length + 1) p
where
  /-- Makes `p`, making its parent first when it is missing. -/
  go : Nat → String → m (Except IoError Unit)
  | 0, _ => pure (.error (.other "failed to create whole tree"))
  | fuel + 1, p => do
    if p.isEmpty then return .ok ()
    match ← createDir p with
    | .ok () => return .ok ()
    | .error .notFound =>
      match Path.parent? p with
      | some parent =>
        match ← go fuel parent with
        | .error e => return .error e
        | .ok () =>
          match ← createDir p with
          | .ok () => return .ok ()
          | .error e => if ← isDir p then return .ok () else return .error e
      | none => return .error (.other "failed to create whole tree")
    | .error e => if ← isDir p then return .ok () else return .error e

/-- The model files of a path: the path itself if it is a file, otherwise
every file ending in `.json` below it, in path order. A failure names the
path it happened at. -/
def modelFiles (p : String) : m (Except (String × IoError) (List String)) :=
  go 64 p
where
  /-- Walks a directory, at most `fuel` levels deep. -/
  go : Nat → String → m (Except (String × IoError) (List String))
  | 0, _ => pure (.ok [])
  | fuel + 1, p => do
    match ← kind p with
    | .error e => return .error (p, e)
    | .ok .file => return .ok [p]
    | .ok .directory =>
      match ← readDir p with
      | .error e => return .error (p, e)
      | .ok names =>
        let mut files : List String := []
        for name in names do
          let child := Path.join p name
          if ← isDir child then
            match ← go fuel child with
            | .error e => return .error e
            | .ok more => files := files ++ more
          else if Path.extension? child == some "json" then
            files := files ++ [child]
        return .ok (files.mergeSort Path.le)

/-- The files of an import with their contents, for the assembler. -/
def importFiles (p : String) : m ImportedFiles := do
  match ← modelFiles p with
  | .error (q, e) => return .error (.io q e.text)
  | .ok files =>
    let read ← files.mapM fun f => do
      match ← readFile f with
      | .ok text => return (f, .ok text)
      | .error e => return (f, .error (LoadError.io f e.text))
    return .ok read

/-- The imports of some paths, read ahead, as a lookup for the assembler. -/
def importsOf (paths : List String) : m (String → ImportedFiles) := do
  let found ← paths.mapM fun p => do return (p, ← importFiles p)
  return fun p => (found.lookup p).getD (.error (.io p IoError.notFound.text))

end FileSystem

end ShapeKit
