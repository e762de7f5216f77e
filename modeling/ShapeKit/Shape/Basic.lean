import ShapeKit.ShapeId
import ShapeKit.Shape.Type
import ShapeKit.Json.Value

/-!
# Shapes

A shape has an ID, a body with the data of its type, a set of traits keyed by
trait ID, and the place it was defined. Members are shapes of their own: a
member has an ID `container$name` and a target, and lives in its container's
body; a model registers it under its own ID as well.

Two shapes are equal when their IDs, bodies and traits are; where they were
defined does not count. Traits compare by ID and value.
-/

namespace ShapeKit

open Json

/-! ## §1. Places and traits -/

/-- Where a shape, trait or metadata entry was defined; an empty file name is the
unknown place. -/
structure SourceLocation where
  filename : String
  line : Nat
  column : Nat
deriving DecidableEq, Inhabited, Repr

namespace SourceLocation

/-- The unknown place. -/
def none : SourceLocation := ⟨"", 0, 0⟩

/-- Whether the place is unknown. -/
def isNone (s : SourceLocation) : Bool := s.filename.isEmpty

/-- `file:line:column`, or `N/A` for the unknown place. -/
def text (s : SourceLocation) : String :=
  if s.isNone then "N/A" else s!"{s.filename}:{s.line}:{s.column}"

end SourceLocation

/-- A trait applied to a shape: the trait's shape ID, its value, and where it was
applied. -/
structure Trait where
  id : ShapeId
  value : Node
  source : SourceLocation := SourceLocation.none

namespace Trait

/-- Same ID and equal values. -/
def equal (a b : Trait) : Bool := a.id == b.id && a.value.equal b.value

/-- An annotation trait: its value is `true`. -/
def isAnnotation (t : Trait) : Bool := t.value.equal (.bool true)

end Trait

/-- Traits keyed by trait ID, kept sorted by ID with one trait per ID. -/
abbrev TraitMap := List Trait

namespace TraitMap

/-- The trait with an ID. -/
def get? (m : TraitMap) (id : ShapeId) : Option Trait := m.find? (·.id == id)

/-- Whether a trait with an ID is present. -/
def contains (m : TraitMap) (id : ShapeId) : Bool := m.any (·.id == id)

/-- Adds a trait, replacing one with the same ID, keeping the order by ID. -/
def insert : TraitMap → Trait → TraitMap
  | [], t => [t]
  | u :: rest, t =>
    match ShapeId.compare t.id u.id with
    | .lt => t :: u :: rest
    | .eq => t :: rest
    | .gt => u :: insert rest t

/-- Drops the trait with an ID. -/
def erase (m : TraitMap) (id : ShapeId) : TraitMap := m.filter (·.id != id)

/-- Same IDs, in order, with equal values. -/
def equal : TraitMap → TraitMap → Bool
  | [], [] => true
  | a :: as, b :: bs => a.equal b && equal as bs
  | _, _ => false

end TraitMap

/-! ## §2. Bodies -/

/-- A member: its ID `container$name`, its target, traits and place. -/
structure Member where
  id : ShapeId
  target : ShapeId
  traits : TraitMap
  source : SourceLocation

/-- Same ID, target and traits. -/
def Member.equal (a b : Member) : Bool :=
  a.id == b.id && a.target == b.target && a.traits.equal b.traits

/-- Pointwise member equality. -/
def Member.equalList : List Member → List Member → Bool
  | [], [] => true
  | a :: as, b :: bs => a.equal b && equalList as bs
  | _, _ => false

/-- The data of an operation. -/
structure OperationData where
  input : Option ShapeId := none
  output : Option ShapeId := none
  errors : List ShapeId := []
deriving DecidableEq, Inhabited, Repr

/-- The data of a resource. Identifiers are kept sorted by name. -/
structure ResourceData where
  identifiers : List (String × ShapeId) := []
  create : Option ShapeId := none
  read : Option ShapeId := none
  update : Option ShapeId := none
  delete : Option ShapeId := none
  list : Option ShapeId := none
  operations : List ShapeId := []
  resources : List ShapeId := []
deriving DecidableEq, Inhabited, Repr

namespace ResourceData

/-- The lifecycle operations by name, in the order create, read, update, delete, list. -/
def lifecycle (r : ResourceData) : List (String × Option ShapeId) :=
  [("create", r.create), ("read", r.read), ("update", r.update), ("delete", r.delete),
   ("list", r.list)]

/-- Every bound operation: the listed ones, then lifecycle operations not listed. -/
def allOperations (r : ResourceData) : List ShapeId :=
  r.lifecycle.foldl (fun acc (_, o) =>
    match o with
    | some id => if acc.contains id then acc else acc ++ [id]
    | none => acc) r.operations

/-- Sets an identifier, keeping identifiers sorted by name. -/
def putIdentifier (ids : List (String × ShapeId)) (name : String) (target : ShapeId) :
    List (String × ShapeId) :=
  match ids with
  | [] => [(name, target)]
  | (n, t) :: rest =>
    if name < n then (name, target) :: (n, t) :: rest
    else if name = n then (name, target) :: rest
    else (n, t) :: putIdentifier rest name target

end ResourceData

/-- The data of a service. -/
structure ServiceData where
  version : String := ""
  operations : List ShapeId := []
  resources : List ShapeId := []
deriving DecidableEq, Inhabited, Repr

/-- The type-specific part of a shape. -/
inductive Body where
  -- A simple shape, of one of the thirteen simple types.
  | simple (t : ShapeType)
  | list (member : Member)
  | set (member : Member)
  | map (key value : Member)
  | structure (members : List Member)
  | union (members : List Member)
  | member (target : ShapeId)
  | operation (data : OperationData)
  | resource (data : ResourceData)
  | service (data : ServiceData)

namespace Body

/-- The type a body belongs to. -/
def type : Body → ShapeType
  | .simple t => t
  | .list _ => .list
  | .set _ => .set
  | .map _ _ => .map
  | .structure _ => .structure
  | .union _ => .union
  | .member _ => .member
  | .operation _ => .operation
  | .resource _ => .resource
  | .service _ => .service

/-- The members of a body in declaration order: `member` for lists and sets,
`key` then `value` for maps. -/
def members : Body → List Member
  | .list m | .set m => [m]
  | .map k v => [k, v]
  | .structure ms | .union ms => ms
  | _ => []

/-- Equal type and data. -/
def equal : Body → Body → Bool
  | .simple a, .simple b => a == b
  | .list a, .list b => a.equal b
  | .set a, .set b => a.equal b
  | .map k v, .map k' v' => k.equal k' && v.equal v'
  | .structure a, .structure b => Member.equalList a b
  | .union a, .union b => Member.equalList a b
  | .member a, .member b => a == b
  | .operation a, .operation b => a == b
  | .resource a, .resource b => a == b
  | .service a, .service b => a == b
  | _, _ => false

end Body

/-! ## §3. Shapes -/

/-- A shape: ID, body, traits and the place it was defined. -/
structure Shape where
  id : ShapeId
  body : Body
  traits : TraitMap
  source : SourceLocation

namespace Shape

/-- The shape's type. -/
def type (s : Shape) : ShapeType := s.body.type

/-- Equal IDs, bodies and traits. -/
def equal (a b : Shape) : Bool := a.id == b.id && a.body.equal b.body && a.traits.equal b.traits

/-- The members of an aggregate shape, as shapes, in declaration order. -/
def memberShapes (s : Shape) : List Shape :=
  s.body.members.map fun m => ⟨m.id, .member m.target, m.traits, m.source⟩

/-- The member with a name. -/
def member? (s : Shape) (name : String) : Option Shape :=
  s.memberShapes.find? (·.id.member == some name)

/-- Whether the shape is a member. -/
def isMember (s : Shape) : Bool := s.type == .member

/-- The member name of a member. -/
def memberName (s : Shape) : Option String := s.id.member

/-- The target of a member. -/
def target (s : Shape) : Option ShapeId :=
  match s.body with
  | .member t => some t
  | _ => none

/-- The container of a member. -/
def container (s : Shape) : Option ShapeId :=
  if s.isMember then some s.id.withoutMember else none

/-- The trait with an ID. -/
def getTrait (s : Shape) (id : ShapeId) : Option Trait := s.traits.get? id

/-- Whether the trait with an ID is applied. -/
def hasTrait (s : Shape) (id : ShapeId) : Bool := s.traits.contains id

/-- Whether the prelude trait with a name is applied. -/
def hasPreludeTrait (s : Shape) (name : String) : Bool := s.hasTrait (ShapeId.prelude name)

/-- The operation data of an operation. -/
def operation? (s : Shape) : Option OperationData :=
  match s.body with
  | .operation d => some d
  | _ => none

/-- The resource data of a resource. -/
def resource? (s : Shape) : Option ResourceData :=
  match s.body with
  | .resource d => some d
  | _ => none

/-- The service data of a service. -/
def service? (s : Shape) : Option ServiceData :=
  match s.body with
  | .service d => some d
  | _ => none

/-- `(type: `id`)` -/
def text (s : Shape) : String := s!"({s.type.name}: `{s.id.text}`)"

end Shape

/-- The shape a member stands for. -/
def Member.toShape (m : Member) : Shape := ⟨m.id, .member m.target, m.traits, m.source⟩

end ShapeKit
