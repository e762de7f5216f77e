import ShapeKit.Model.Basic
import ShapeKit.Relationship

/-!
# Neighbors

The relationships of a shape in a model:

* a member points to its container (`MEMBER_CONTAINER`) and its target
  (`MEMBER_TARGET`);
* lists, sets, maps, structures and unions point to their members;
* an operation points to its input, output and errors;
* a resource points to its identifier targets, its lifecycle operations, its
  operations (listed ones, then unlisted lifecycle ones) and child resources;
  each bound operation and child points back with `BOUND`, and each service or
  resource that binds the resource as a child points to it with `RESOURCE`;
* a service points to its operations and resources, which point back with
  `BOUND`;
* with trait relationships on, every shape points to its applied traits.

A relationship is resolved when the model holds its neighbor; a member's own
members are always resolved. The index lists each relationship once, keyed by
the shape it starts at, the kind and the neighbor.
-/

namespace ShapeKit

/-- An edge from a shape to a neighbor. -/
structure Relationship where
  shape : ShapeId
  kind : RelationshipType
  neighbor : ShapeId
  /-- Whether the neighbor is a shape of the model. -/
  resolved : Bool
  /-- The target of the neighbor when the neighbor is a member. -/
  memberTarget : Option ShapeId := none
deriving DecidableEq, Repr

/-- `<shape> -[KIND]-> <neighbor>`. -/
def Relationship.text (r : Relationship) : String :=
  s!"{r.shape.text} -[{r.kind.name}]-> {r.neighbor.text}"

/-- The services, then the resources, that bind a resource as a child. -/
def binders (m : Model) (id : ShapeId) : List Shape :=
  (m.shapesOfType .service).filter (fun s => (s.service?.map (·.resources.contains id)).getD false) ++
  (m.shapesOfType .resource).filter (fun s => (s.resource?.map (·.resources.contains id)).getD false)

/-- The relationships of a shape, in order. -/
def neighbors (m : Model) (withTraits : Bool) (s : Shape) : List Relationship :=
  let rel (k : RelationshipType) (other : ShapeId) : Relationship :=
    let found := m.get? other
    { shape := s.id, kind := k, neighbor := other, resolved := found.isSome,
      memberTarget := found.bind Shape.target }
  let mem (k : RelationshipType) (member : Member) : Relationship :=
    { shape := s.id, kind := k, neighbor := member.id, resolved := true,
      memberTarget := some member.target }
  let bound (ids : List ShapeId) : List Relationship :=
    ids.filterMap fun id =>
      if m.contains id then some { shape := id, kind := .bound, neighbor := s.id, resolved := true }
      else none
  let opt (k : RelationshipType) : Option ShapeId → List Relationship
    | some id => [rel k id]
    | none => []
  let base : List Relationship :=
    match s.body with
    | .member target => [rel .memberContainer s.id.withoutMember, rel .memberTarget target]
    | .list mm => [mem .listMember mm]
    | .set mm => [mem .setMember mm]
    | .map k v => [mem .mapKey k, mem .mapValue v]
    | .structure ms => ms.map (mem .structureMember)
    | .union ms => ms.map (mem .unionMember)
    | .operation d => opt .input d.input ++ opt .output d.output ++ d.errors.map (rel .error)
    | .resource r =>
      r.identifiers.map (fun (_, t) => rel .identifier t) ++
      opt .create r.create ++ opt .read r.read ++ opt .update r.update ++ opt .delete r.delete ++
      opt .list r.list ++ r.allOperations.map (rel .operation) ++ r.resources.map (rel .resource) ++
      bound (r.allOperations ++ r.resources) ++
      (binders m s.id).map fun p => { shape := p.id, kind := .resource, neighbor := s.id, resolved := true }
    | .service d =>
      d.operations.map (rel .operation) ++ d.resources.map (rel .resource) ++
      bound (d.operations ++ d.resources)
    | .simple _ => []
  base ++ (if withTraits then s.traits.map (fun t => rel .trait t.id) else [])

/-- Keeps the first relationship with each start, kind and neighbor. -/
def dedupRelationships (rs : List Relationship) : List Relationship :=
  (rs.foldl (fun (acc : List Relationship × List (ShapeId × RelationshipType × ShapeId)) r =>
    let key := (r.shape, r.kind, r.neighbor)
    if acc.2.contains key then acc else (acc.1 ++ [r], acc.2 ++ [key])) ([], [])).1

/-- Every relationship of a model once, in shape order. -/
structure NeighborIndex where
  relationships : List Relationship

namespace NeighborIndex

/-- Indexes the relationships of every shape of a model. -/
def build (m : Model) (withTraits : Bool) : NeighborIndex :=
  ⟨dedupRelationships (m.shapes.flatMap (neighbors m withTraits))⟩

/-- The relationships that start at a shape. -/
def outgoing (ix : NeighborIndex) (id : ShapeId) : List Relationship :=
  ix.relationships.filter (·.shape == id)

/-- The resolved relationships that end at a shape. -/
def incoming (ix : NeighborIndex) (id : ShapeId) : List Relationship :=
  ix.relationships.filter fun r => r.resolved && r.neighbor == id

end NeighborIndex

end ShapeKit
