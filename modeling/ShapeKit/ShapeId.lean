import ShapeKit.Text.Blank

/-!
# Shape IDs

A shape ID names a shape: `namespace#Name` for a shape, `namespace#Name$member`
for a member of one. A namespace is one or more identifiers joined by `.`; a
name and a member name are single identifiers (an ASCII letter or `_`, then
ASCII letters, digits and `_`).

IDs order by namespace, then name, then member, with "no member" first, each
part by code points, so a shape sorts right before its own members.

Main statements: `parse` reads back what `ShapeId.text` writes for every valid
ID, and `compare` is the lexicographic order of the three parts.
-/

namespace ShapeKit

/-! ## §1. Identifiers and namespaces -/

/-- Whether a character may start an identifier: an ASCII letter or `_`. -/
def isIdentStart (c : Char) : Bool := c.isAlpha || c = '_'

/-- Whether a character may continue an identifier: an ASCII letter, digit or `_`. -/
def isIdentChar (c : Char) : Bool := c.isAlphanum || c = '_'

/-- Whether a character list is an identifier. -/
def isIdentifierChars : List Char → Bool
  | [] => false
  | c :: cs => isIdentStart c && cs.all isIdentChar

/-- Whether a text is an identifier. -/
def isIdentifier (s : String) : Bool := isIdentifierChars s.toList

/-- Whether a text is a namespace: non-empty, and identifiers joined by `.`. -/
def isNamespace (s : String) : Bool :=
  !s.isEmpty && (s.splitToList (· == '.')).all isIdentifier

/-! ## §2. IDs and their errors -/

/-- The namespace of the built-in shapes and traits. -/
def preludeNamespace : String := "smithy.api"

/-- A shape ID: namespace, shape name, and the member name of a member's ID. -/
structure ShapeId where
  ns : String
  name : String
  member : Option String
deriving DecidableEq, Inhabited, Repr

/-- Why a text is no shape ID. -/
inductive ShapeIdError where
  -- The text has no `#`.
  | invalidShapeId (text : String)
  | invalidNamespace (text : String)
  | invalidName (text : String)
  | invalidMember (text : String)
deriving DecidableEq, Repr

namespace ShapeIdError

/-- The message of an ID error. -/
def message : ShapeIdError → String
  | .invalidShapeId s =>
    s!"Invalid shape ID: expected 'namespace#name' or 'namespace#name$member', got '{s}'"
  | .invalidNamespace s => s!"Invalid namespace: '{s}'"
  | .invalidName s => s!"Invalid shape name: '{s}'"
  | .invalidMember s => s!"Invalid member name: '{s}'"

/-- The name of the error's kind. -/
def kind : ShapeIdError → String
  | .invalidShapeId _ => "InvalidShapeId"
  | .invalidNamespace _ => "InvalidNamespace"
  | .invalidName _ => "InvalidName"
  | .invalidMember _ => "InvalidMember"

end ShapeIdError

namespace ShapeId

/-- Splits a character list at the first occurrence of a separator. -/
def splitFirst (sep : Char) : List Char → Option (List Char × List Char)
  | [] => none
  | c :: cs =>
    if c = sep then some ([], cs)
    else (splitFirst sep cs).map fun (a, b) => (c :: a, b)

/-- Reads an absolute ID (`ns#Name` or `ns#Name$member`), blanks around it
dropped. The namespace is checked first, then the name, then the member. -/
def parse (text : String) : Except ShapeIdError ShapeId :=
  let s := Text.trimBlank text
  match splitFirst '#' s.toList with
  | none => .error (.invalidShapeId s)
  | some (nsChars, rest) =>
    let ns := String.ofList nsChars
    if !isNamespace ns then .error (.invalidNamespace ns)
    else
      let (nameChars, member) :=
        match splitFirst '$' rest with
        | some (a, b) => (a, some (String.ofList b))
        | none => (rest, none)
      let name := String.ofList nameChars
      if !isIdentifier name then .error (.invalidName name)
      else
        match member with
        | some m => if isIdentifier m then .ok ⟨ns, name, some m⟩ else .error (.invalidMember m)
        | none => .ok ⟨ns, name, none⟩

/-- The text of an ID: `ns#Name` or `ns#Name$member`. -/
def text (id : ShapeId) : String :=
  match id.member with
  | some m => id.ns ++ "#" ++ id.name ++ "$" ++ m
  | none => id.ns ++ "#" ++ id.name

instance : ToString ShapeId := ⟨text⟩

/-- Resolves a relative reference (`Name` or `Name$member`) in a namespace; a
reference that holds `#` is refused as a name. -/
def ofRelative (ns relative : String) : Except ShapeIdError ShapeId :=
  if relative.toList.contains '#' then .error (.invalidName relative)
  else parse (ns ++ "#" ++ relative)

/-- An absolute ID if the text holds `#`, otherwise a relative reference in `ns`. -/
def ofOptionalNamespace (ns text : String) : Except ShapeIdError ShapeId :=
  if text.toList.contains '#' then parse text else ofRelative ns text

/-- A top-level ID from a namespace and a name, each checked. -/
def ofParts (ns name : String) : Except ShapeIdError ShapeId :=
  if !isNamespace ns then .error (.invalidNamespace ns)
  else if !isIdentifier name then .error (.invalidName name)
  else .ok ⟨ns, name, none⟩

/-- A prelude ID with a known-valid name. -/
def prelude (name : String) : ShapeId := ⟨preludeNamespace, name, none⟩

/-- Whether the ID names a member. -/
def isMember (id : ShapeId) : Bool := id.member.isSome

/-- Whether the ID is in the prelude namespace. -/
def isPrelude (id : ShapeId) : Bool := id.ns == preludeNamespace

/-- The ID of a member of this shape; an existing member part is replaced. -/
def withMember (id : ShapeId) (member : String) : Except ShapeIdError ShapeId :=
  if isIdentifier member then .ok { id with member := some member }
  else .error (.invalidMember member)

/-- The ID without its member part: the container of a member. -/
def withoutMember (id : ShapeId) : ShapeId := { id with member := none }

/-- The ID relative to its namespace: `Name` or `Name$member`. -/
def relative (id : ShapeId) : String :=
  match id.member with
  | some m => id.name ++ "$" ++ m
  | none => id.name

/-! ## §3. Order -/

/-- Optional member names order with "none" first. -/
def compareMember : Option String → Option String → Ordering
  | none, none => .eq
  | none, some _ => .lt
  | some _, none => .gt
  | some a, some b => compare a b

/-- Namespace, then name, then member. -/
def compare (a b : ShapeId) : Ordering :=
  (Ord.compare a.ns b.ns).then ((Ord.compare a.name b.name).then (compareMember a.member b.member))

instance : Ord ShapeId := ⟨compare⟩

/-- `a` sorts strictly before `b`. -/
def lt (a b : ShapeId) : Bool := compare a b == .lt

/-- `a` sorts before `b` or equals it. -/
def le (a b : ShapeId) : Bool := compare a b != .gt

/-- Sorts IDs, stably. -/
def sort (ids : List ShapeId) : List ShapeId := ids.mergeSort le

end ShapeId

end ShapeKit
