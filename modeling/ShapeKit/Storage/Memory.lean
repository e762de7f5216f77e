import ShapeKit.Storage.FileSystem

/-!
# Files in memory

A file system held as a value: a list of entries, each an absolute path
(as its components) that is a directory or a file with its text, plus the
current directory and the configuration directory. The root always exists.

Operations behave as on a disk: reaching through a file is "not a
directory", a missing parent is "not found", a new directory where anything
already stands "already exists", and writing or reading a directory "is a
directory". It is an instance of `FileSystem` in `StateM MemoryFs`.
-/

namespace ShapeKit

/-- An entry of the file system. -/
inductive MemoryEntry where
  | directory
  | file (text : String)
deriving DecidableEq, Repr

/-- A file system in memory. -/
structure MemoryFs where
  entries : List (List String × MemoryEntry) := []
  cwd : String := "/"
  configDir : Option String := none
deriving Repr

namespace MemoryFs

/-- The entry at absolute components; the root is a directory. -/
def entry? (fs : MemoryFs) (cs : List String) : Option MemoryEntry :=
  if cs.isEmpty then some .directory else fs.entries.lookup cs

/-- What the components name, checking every directory on the way. -/
def find (fs : MemoryFs) (cs : List String) : Except IoError MemoryEntry :=
  let prefixes := (List.range cs.length).map fun n => cs.take n
  match prefixes.find? fun pre => fs.entry? pre != some .directory with
  | some pre =>
    match fs.entry? pre with
    | some (.file _) => .error .notDirectory
    | _ => .error .notFound
  | none =>
    match fs.entry? cs with
    | some e => .ok e
    | none => .error .notFound

/-- The absolute components of a path. -/
def locate (fs : MemoryFs) (p : String) : List String := Path.resolve fs.cwd p

/-- Sets the entry at absolute components. -/
def put (fs : MemoryFs) (cs : List String) (e : MemoryEntry) : MemoryFs :=
  if (fs.entries.lookup cs).isSome then
    { fs with entries := fs.entries.map fun (k, v) => if k == cs then (k, e) else (k, v) }
  else { fs with entries := fs.entries ++ [(cs, e)] }

/-- What a path names. -/
def kind (fs : MemoryFs) (p : String) : Except IoError EntryKind :=
  (fs.find (fs.locate p)).map fun
    | .directory => .directory
    | .file _ => .file

/-- The text of a file. -/
def fileText (fs : MemoryFs) (p : String) : Except IoError String :=
  match fs.find (fs.locate p) with
  | .ok (.file t) => .ok t
  | .ok .directory => .error .isDirectory
  | .error e => .error e

/-- The names in a directory, in name order. -/
def readDir (fs : MemoryFs) (p : String) : Except IoError (List String) :=
  let cs := fs.locate p
  match fs.find cs with
  | .ok .directory =>
    .ok ((fs.entries.filterMap fun (k, _) =>
      if k.length == cs.length + 1 && k.take cs.length == cs then k.getLast? else none).mergeSort
        fun a b => decide (a ≤ b))
  | .ok (.file _) => .error .notDirectory
  | .error e => .error e

/-- Makes one directory. -/
def createDir (fs : MemoryFs) (p : String) : Except IoError MemoryFs :=
  let cs := fs.locate p
  match fs.find cs.dropLast with
  | .ok .directory =>
    if cs.isEmpty || (fs.entry? cs).isSome then .error .alreadyExists else .ok (fs.put cs .directory)
  | .ok (.file _) => .error .notDirectory
  | .error e => .error e

/-- Writes a file. -/
def putFile (fs : MemoryFs) (p text : String) : Except IoError MemoryFs :=
  let cs := fs.locate p
  match fs.find cs.dropLast with
  | .ok .directory =>
    match fs.entry? cs with
    | some .directory => .error .isDirectory
    | _ => if cs.isEmpty then .error .isDirectory else .ok (fs.put cs (.file text))
  | .ok (.file _) => .error .notDirectory
  | .error e => .error e

/-- A file system holding the directories of an absolute path, with that
path as the current directory. -/
def withRoot (root : String) (configDir : Option String) : MemoryFs :=
  let cs := Path.resolve "/" root
  { entries := ((List.range cs.length).map fun n => (cs.take (n + 1), MemoryEntry.directory)),
    cwd := root, configDir }

/-- Orders component lists: by their first differing component, a list
before its extensions. -/
def componentsLe : List String → List String → Bool
  | [], _ => true
  | _ :: _, [] => false
  | a :: as, b :: bs => if a == b then componentsLe as bs else decide (a < b)

/-- Every entry below a directory, depth first in name order, as paths
relative to it; directories end with `/`. -/
def listBelow (fs : MemoryFs) (p : String) : Except IoError (List String) :=
  let cs := fs.locate p
  match fs.find cs with
  | .ok .directory =>
    let below := fs.entries.filter fun (k, _) => k.length > cs.length && k.take cs.length == cs
    let named := below.map fun (k, e) =>
      (k.drop cs.length, match e with
        | .directory => true
        | .file _ => false)
    let sorted := named.mergeSort fun a b => componentsLe a.1 b.1
    .ok (sorted.map fun (k, dir) => "/".intercalate k ++ (if dir then "/" else ""))
  | .ok (.file _) => .error .notDirectory
  | .error e => .error e

end MemoryFs

instance : FileSystem (StateM MemoryFs) where
  kind p := return (← get).kind p
  readFile p := return (← get).fileText p
  readDir p := return (← get).readDir p
  createDir p := do
    match (← get).createDir p with
    | .ok fs => set fs; return .ok ()
    | .error e => return .error e
  writeFile p t := do
    match (← get).putFile p t with
    | .ok fs => set fs; return .ok ()
    | .error e => return .error e
  currentDir := return (← get).cwd
  configDir := return (← get).configDir

end ShapeKit
