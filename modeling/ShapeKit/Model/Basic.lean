import ShapeKit.Shape.Basic

/-!
# Models

A model is a set of shapes keyed by ID, members included under their own IDs,
and metadata keyed by name. Both are kept sorted by key, so every listing of a
model is in ID (or name) order.

Putting a shape registers its members too and first drops the members of the
shape it replaces; removing a shape removes its members. Adding another model
puts its shapes and metadata entries one by one, without that member clean-up.

Two models are equal when they hold equal shapes under the same IDs and equal
metadata.
-/

namespace ShapeKit

open Json

/-- Why a shape looked up in a model is not there as expected. -/
inductive ModelError where
  | shapeNotFound (id : ShapeId)
  | wrongShapeType (id : ShapeId) (expected found : ShapeType)

namespace ModelError

/-- The message of a look-up error. -/
def message : ModelError → String
  | .shapeNotFound id => s!"Shape not found: {id.text}"
  | .wrongShapeType id e f => s!"Expected `{id.text}` to be a {e.name} shape, found {f.name}"

/-- The name of the error's kind. -/
def kind : ModelError → String
  | .shapeNotFound _ => "ShapeNotFound"
  | .wrongShapeType _ _ _ => "WrongShapeType"

end ModelError

/-- Shapes sorted by ID, one per ID, and metadata sorted by key. -/
structure Model where
  shapes : List Shape := []
  metadata : List (String × Node) := []

namespace Model

/-- Puts a shape under its ID, replacing one with the same ID. -/
def putShape : List Shape → Shape → List Shape
  | [], s => [s]
  | t :: rest, s =>
    match ShapeId.compare s.id t.id with
    | .lt => s :: t :: rest
    | .eq => s :: rest
    | .gt => t :: putShape rest s

/-- Puts a metadata entry under its key, replacing one with the same key. -/
def putEntry : List (String × Node) → String → Node → List (String × Node)
  | [], k, v => [(k, v)]
  | (k', v') :: rest, k, v =>
    if k < k' then (k, v) :: (k', v') :: rest
    else if k = k' then (k, v) :: rest
    else (k', v') :: putEntry rest k v

/-- The shape with an ID. -/
def get? (m : Model) (id : ShapeId) : Option Shape := m.shapes.find? (·.id == id)

/-- Whether a shape with an ID is present. -/
def contains (m : Model) (id : ShapeId) : Bool := m.shapes.any (·.id == id)

/-- The number of shapes, members included. -/
def size (m : Model) : Nat := m.shapes.length

/-- Whether the model has no shapes. -/
def isEmpty (m : Model) : Bool := m.shapes.isEmpty

/-- Puts a shape and its members; the members of a replaced shape go first. -/
def insertShape (m : Model) (s : Shape) : Model :=
  let stale : List ShapeId := match m.get? s.id with
    | some prev => prev.memberShapes.map (fun x => x.id)
    | none => []
  let kept := m.shapes.filter fun (x : Shape) => !stale.contains x.id
  let withMembers := s.memberShapes.foldl putShape kept
  { m with shapes := putShape withMembers s }

/-- Puts shapes in order. -/
def insertShapes (m : Model) (ss : List Shape) : Model := ss.foldl insertShape m

/-- Removes a shape and its members. -/
def removeShape (m : Model) (id : ShapeId) : Model :=
  match m.get? id with
  | none => m
  | some s =>
    let gone : List ShapeId := id :: s.memberShapes.map (fun x => x.id)
    { m with shapes := m.shapes.filter fun (x : Shape) => !gone.contains x.id }

/-- Puts a metadata entry. -/
def putMetadata (m : Model) (key : String) (value : Node) : Model :=
  { m with metadata := putEntry m.metadata key value }

/-- Puts every shape and metadata entry of another model. -/
def addModel (m other : Model) : Model :=
  { shapes := other.shapes.foldl putShape m.shapes
    metadata := other.metadata.foldl (fun acc (k, v) => putEntry acc k v) m.metadata }

/-- The metadata value under a key. -/
def metadataProperty (m : Model) (key : String) : Option Node :=
  (m.metadata.find? (·.1 == key)).map (·.2)

/-- The shape with an ID, or `shapeNotFound`. -/
def expectShape (m : Model) (id : ShapeId) : Except ModelError Shape :=
  match m.get? id with
  | some s => .ok s
  | none => .error (.shapeNotFound id)

/-- The shape with an ID and a type. -/
def expectShapeOfType (m : Model) (id : ShapeId) (t : ShapeType) : Except ModelError Shape := do
  let s ← m.expectShape id
  if s.type != t then throw (.wrongShapeType id t s.type)
  return s

/-- Shapes of a type, in ID order. -/
def shapesOfType (m : Model) (t : ShapeType) : List Shape := m.shapes.filter (·.type == t)

/-- Shapes with a trait applied, in ID order. -/
def shapesWithTrait (m : Model) (traitId : ShapeId) : List Shape :=
  m.shapes.filter (·.hasTrait traitId)

/-- Every trait ID applied somewhere, in ID order. -/
def appliedTraits (m : Model) : List ShapeId :=
  let all := m.shapes.flatMap fun s => s.traits.map (·.id)
  (ShapeId.sort all).eraseDups

/-- Same shapes under the same IDs, and equal metadata. -/
def equal (a b : Model) : Bool :=
  a.shapes.length == b.shapes.length &&
  (a.shapes.zip b.shapes).all (fun (x, y) => x.equal y) &&
  a.metadata.length == b.metadata.length &&
  (a.metadata.zip b.metadata).all (fun (x, y) => x.1 == y.1 && x.2.equal y.2)

end Model

end ShapeKit
