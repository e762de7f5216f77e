/-!
# Relationship types

The kinds of edges between shapes: the bindings of resources and services,
the lifecycle and I/O of operations, the member edges of aggregates, and
applied traits. Each kind has an upper-case name (`MEMBER_TARGET`); most have
a lower-case selector label, all member edges share the label `member`, and
the edges from a member to its container and to its target have none.

Two kinds run against the grain: `BOUND` (from a bound operation or resource
back to its binder) and `MEMBER_CONTAINER`. Plain selector traversal follows
only the others.
-/

namespace ShapeKit

/-- A kind of edge between shapes. -/
inductive RelationshipType where
  | identifier | resource | operation | bound | create | read | update | delete | list
  | input | output | error | memberContainer | memberTarget | listMember | setMember
  | mapKey | mapValue | structureMember | unionMember | trait
deriving DecidableEq, Repr, Inhabited

namespace RelationshipType

/-- Every kind, in order. -/
def all : List RelationshipType :=
  [.identifier, .resource, .operation, .bound, .create, .read, .update, .delete, .list,
   .input, .output, .error, .memberContainer, .memberTarget, .listMember, .setMember,
   .mapKey, .mapValue, .structureMember, .unionMember, .trait]

/-- The upper-case name. -/
def name : RelationshipType → String
  | .identifier => "IDENTIFIER" | .resource => "RESOURCE" | .operation => "OPERATION"
  | .bound => "BOUND" | .create => "CREATE" | .read => "READ" | .update => "UPDATE"
  | .delete => "DELETE" | .list => "LIST" | .input => "INPUT" | .output => "OUTPUT"
  | .error => "ERROR" | .memberContainer => "MEMBER_CONTAINER" | .memberTarget => "MEMBER_TARGET"
  | .listMember => "LIST_MEMBER" | .setMember => "SET_MEMBER" | .mapKey => "MAP_KEY"
  | .mapValue => "MAP_VALUE" | .structureMember => "STRUCTURE_MEMBER"
  | .unionMember => "UNION_MEMBER" | .trait => "TRAIT"

/-- The selector label, if the kind has one. -/
def label : RelationshipType → Option String
  | .identifier => some "identifier" | .resource => some "resource"
  | .operation => some "operation" | .bound => some "bound" | .create => some "create"
  | .read => some "read" | .update => some "update" | .delete => some "delete"
  | .list => some "list" | .input => some "input" | .output => some "output"
  | .error => some "error"
  | .memberContainer | .memberTarget => none
  | .listMember | .setMember | .mapKey | .mapValue | .structureMember | .unionMember => some "member"
  | .trait => some "trait"

/-- Whether the kind runs against the grain of plain traversal. -/
def isInverted : RelationshipType → Bool
  | .bound | .memberContainer => true
  | _ => false

/-- Whether a text is the selector label of some kind. -/
def isLabel (s : String) : Bool := all.any (·.label == some s)

/-- ASCII upper case of a character. -/
def upperAscii (c : Char) : Char := if 'a' ≤ c && c ≤ 'z' then Char.ofNat (c.toNat - 32) else c

/-- Reads a name, ignoring ASCII case. -/
def parse (s : String) : Except String RelationshipType :=
  let up := String.ofList (s.toList.map upperAscii)
  match all.find? (·.name == up) with
  | some r => .ok r
  | none => .error s!"Unknown relationship type: '{s}'"

end RelationshipType

end ShapeKit
