import ShapeKit.Prelude
import ShapeKit.Json.Writer
import ShapeKit.Load.Error

/-!
# Writing models as documents

A model is written as a JSON model document that loads back to it: version
`1.0`, the metadata (when there is any), and every shape that is neither a
member nor a prelude shape, in ID order. Members are nested in their
containers, and every reference and trait name is an absolute shape ID, so
the document needs no `use` entries. Empty optional properties are left out;
a structure or union always has `members`.
-/

namespace ShapeKit

open Json

/-- `{"target": id}`. -/
def targetNode (id : ShapeId) : Node := .obj [("target", .str id.text)]

/-- An array of target objects. -/
def targetsNode (ids : List ShapeId) : Node := .arr (ids.map targetNode)

/-- The traits of a shape as an object keyed by trait ID, if it has any. -/
def traitsEntry (traits : TraitMap) : List (String × Node) :=
  if traits.isEmpty then [] else [("traits", .obj (traits.map fun t => (t.id.text, t.value)))]

/-- A member: its target and traits. -/
def Member.toNode (m : Member) : Node :=
  .obj ([("target", .str m.target.text)] ++ traitsEntry m.traits)

/-- A non-empty list of targets under a name. -/
def targetsEntry (name : String) (ids : List ShapeId) : List (String × Node) :=
  if ids.isEmpty then [] else [(name, targetsNode ids)]

/-- The properties of a shape's body. -/
def Body.entries : Body → List (String × Node)
  | .list m | .set m => [("member", m.toNode)]
  | .map k v => [("key", k.toNode), ("value", v.toNode)]
  | .structure ms | .union ms => [("members", .obj (ms.map fun m => (m.id.member.getD "", m.toNode)))]
  | .operation op =>
    (op.input.toList.map fun i => ("input", targetNode i)) ++
    (op.output.toList.map fun o => ("output", targetNode o)) ++
    targetsEntry "errors" op.errors
  | .resource r =>
    (if r.identifiers.isEmpty then []
     else [("identifiers", .obj (r.identifiers.map fun (n, id) => (n, targetNode id)))]) ++
    (r.lifecycle.filterMap fun (n, o) => o.map fun id => (n, targetNode id)) ++
    targetsEntry "operations" r.operations ++ targetsEntry "resources" r.resources
  | .service s =>
    (if s.version.isEmpty then [] else [("version", .str s.version)]) ++
    targetsEntry "operations" s.operations ++ targetsEntry "resources" s.resources
  | _ => []

/-- A shape definition: its type, its body's properties and its traits. -/
def Shape.toNode (s : Shape) : Node :=
  .obj ([("type", .str s.type.name)] ++ s.body.entries ++ traitsEntry s.traits)

/-- The document of a model. -/
def Model.toDocument (m : Model) : Node :=
  let metadata := if m.metadata.isEmpty then [] else [("metadata", Node.obj m.metadata)]
  let shapes := (m.shapes.filter fun s => !s.isMember && !isPreludeShape s.id).map fun s =>
    (s.id.text, s.toNode)
  .obj ([("smithy", .str modelVersion)] ++ metadata ++ [("shapes", .obj shapes)])

end ShapeKit
