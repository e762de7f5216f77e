import ShapeKit.Report.Assembly
import ShapeKit.Graph.ShapeGraph

/-!
# Shape and graph reports

The JSON descriptions of single shapes and of shape graphs: what a shape is
(its ID, type, place, member name, container, target, members and traits),
whether building it again gives it back, and the type-specific data of
operations, resources and services; and for a graph, its size, its cycles
and the labels of the edges between chosen pairs of nodes.
-/

namespace ShapeKit

open Json

/-- An optional ID as a string or `null`. -/
def optIdNode : Option ShapeId → Node
  | some i => .str i.text
  | none => .null

/-- The type-specific data of operations, resources and services. -/
def Body.describe : Body → List (String × Node)
  | .operation op =>
    [("operation", .obj [("input", optIdNode op.input), ("output", optIdNode op.output),
      ("errors", idsNode op.errors)])]
  | .resource r =>
    [("resource", .obj [
      ("identifiers", .obj (r.identifiers.map fun (n, i) => (n, .str i.text))),
      ("lifecycle", .obj (r.lifecycle.map fun (n, o) => (n, optIdNode o))),
      ("all_operations", idsNode r.allOperations), ("operations", idsNode r.operations),
      ("resources", idsNode r.resources)])]
  | .service s =>
    [("service", .obj [("version", .str s.version), ("operations", idsNode s.operations),
      ("resources", idsNode s.resources)])]
  | _ => []

/-- A shape described. -/
def Shape.describe (s : Shape) : Node :=
  let rebuilt := match s.toBuilder.build with
    | .ok t => t.equal s
    | .error _ => false
  .obj ([("id", .str s.id.text), ("type", .str s.type.name), ("text", .str s.text),
    ("source", .str s.source.text),
    ("member_name", match s.memberName with
      | some n => .str n
      | none => .null),
    ("container", optIdNode s.container), ("target", optIdNode s.target),
    ("members", idsNode (s.memberShapes.map (·.id))),
    ("traits", .arr (s.traits.map fun t =>
      .obj [("id", .str t.id.text), ("value", t.value), ("annotation", .bool t.isAnnotation)])),
    ("required", .bool (s.hasPreludeTrait "required")), ("rebuilt_equal", .bool rebuilt)] ++
    s.body.describe ++
    (match s.body with
      | .member t => [("kind_target", .str t.text)]
      | _ => []))

/-- The graph of a model over the relationship types named in a list, described
with the edge labels between some pairs of nodes. -/
def graphNode (m : Model) (kinds : List String) (pairs : List (ShapeId × ShapeId)) : Node :=
  let g := ShapeGraph.ofModel m fun _ r => kinds.contains r.kind.name
  .obj [("nodes", .num (.nat g.nodes.length)), ("edges", .num (.nat g.edges.length)),
    ("cycles", .arr (g.cycles.map idsNode)),
    ("between", .arr (pairs.map fun (a, b) => idsNode (g.edgesBetween a b)))]

end ShapeKit
