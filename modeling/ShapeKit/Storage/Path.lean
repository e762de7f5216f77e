/-!
# Paths

File paths as text, with the usual Unix reading: `/` separates components,
a leading `/` makes a path absolute, empty components and `.` after the
first component are ignored, and `..` stays a component of its own.

Joining keeps the text as written (`.` joined with `.shape` is `./.shape`),
so paths print the way they were built. Parents drop the last component, and
paths order component by component, so `m/a/x.json` comes before
`m/a-b.json`.
-/

namespace ShapeKit.Path

/-- One component of a path. -/
inductive Part where
  | root
  | current
  | up
  | name (text : String)
deriving DecidableEq, Repr

/-- The rank of a component kind, for ordering. -/
def Part.rank : Part → Nat
  | .root => 0
  | .current => 1
  | .up => 2
  | .name _ => 3

/-- Orders components: root, `.`, `..`, then names by their text. -/
def Part.compare (a b : Part) : Ordering :=
  match a, b with
  | .name x, .name y => Ord.compare x y
  | _, _ => Ord.compare a.rank b.rank

/-- Whether a path starts at the root. -/
def isAbsolute (p : String) : Bool := p.startsWith "/"

/-- The components of a path. -/
def parts (p : String) : List Part :=
  let pieces := p.splitOn "/"
  let body := pieces.drop 1
  let first := pieces.head?.getD ""
  let lead : List Part :=
    if isAbsolute p then [.root]
    else if first == "." then [.current]
    else if first == ".." then [.up]
    else if first.isEmpty then []
    else [.name first]
  lead ++ body.filterMap fun s =>
    if s.isEmpty || s == "." then none
    else if s == ".." then some .up
    else some (.name s)

/-- Orders paths component by component. -/
def compare (a b : String) : Ordering :=
  let rec go : List Part → List Part → Ordering
    | [], [] => .eq
    | [], _ :: _ => .lt
    | _ :: _, [] => .gt
    | x :: xs, y :: ys =>
      match x.compare y with
      | .eq => go xs ys
      | o => o
  go (parts a) (parts b)

/-- `a` comes before or equals `b` in path order. -/
def le (a b : String) : Bool := compare a b != .gt

/-- Joins a path onto another: an absolute path replaces the base, otherwise
a separator is added when the base does not end in one. -/
def join (base p : String) : String :=
  if isAbsolute p then p
  else if base.isEmpty || base.endsWith "/" then base ++ p
  else base ++ "/" ++ p

/-- Splits the last component off the text of a path whose first `lead`
characters are its root or leading `.`: what is left (without the separator
before the component) and the component. -/
def splitLast (lead : Nat) (cs : List Char) : List Char × List Char :=
  let rev := (cs.drop lead).reverse
  let comp := rev.takeWhile (· != '/')
  let rest := (rev.drop comp.length).drop 1
  (cs.take lead ++ rest.reverse, comp.reverse)

/-- Whether a component's text names something: not empty and not `.`. -/
def isReal (comp : List Char) : Bool := !comp.isEmpty && comp != ['.']

/-- Takes components off the end until one names something. -/
def lastReal (lead : Nat) : Nat → List Char → Option (List Char)
  | 0, _ => none
  | fuel + 1, cs =>
    if cs.length ≤ lead then none
    else
      let (rest, comp) := splitLast lead cs
      if isReal comp then some rest else lastReal lead fuel rest

/-- Drops trailing separators and `.` components. -/
def trimEnd (lead : Nat) : Nat → List Char → List Char
  | 0, cs => cs
  | fuel + 1, cs =>
    if cs.length ≤ lead then cs
    else
      let (rest, comp) := splitLast lead cs
      if isReal comp then cs else trimEnd lead fuel rest

/-- The path without its last component; none for the root and the empty
path, and the empty path for a single relative component. -/
def parent? (p : String) : Option String :=
  let cs := p.toList
  let lead := if cs.head? == some '/' || cs == ['.'] || cs.take 2 == ['.', '/'] then 1 else 0
  match lastReal lead (cs.length + 1) cs with
  | some rest => some (String.ofList (trimEnd lead (rest.length + 1) rest))
  | none => if cs.head? != some '/' && lead == 1 then some "" else none

/-- The last component's text, if it is a name. -/
def fileName? (p : String) : Option String :=
  match (parts p).getLast? with
  | some (.name n) => some n
  | _ => none

/-- The extension of the file name: the text after its last dot, if the dot
is not the name's first character. -/
def extension? (p : String) : Option String :=
  (fileName? p).bind fun n =>
    if n == ".." then none
    else
      match (n.splitOn ".").reverse with
      | ext :: before@(_ :: _) =>
        if (".".intercalate before.reverse).isEmpty then none else some ext
      | _ => none

/-- The absolute components a path names when read from a directory, with
`.` dropped and `..` going up one component. -/
def resolve (cwd p : String) : List String :=
  let whole := if isAbsolute p then p else join cwd p
  (parts whole).foldl (fun acc part =>
    match part with
    | .name n => acc ++ [n]
    | .up => acc.dropLast
    | _ => acc) []

/-- The text of absolute components. -/
def ofComponents (cs : List String) : String := "/" ++ "/".intercalate cs

end ShapeKit.Path
