import ShapeKit.Load.Assembler
import ShapeKit.Load.Serialize
import ShapeKit.Selector.Eval

/-!
# Assembly reports

The JSON form of an assembled model: whether it is broken, its size, its
events and its document, and on request the shapes some selectors select,
the problems of some node values, the relationships of every user shape, the
user trait definitions, the metadata, the broken-model result and the events
at or above a severity.

Errors are written as objects `{"error": kind, "message": text}`.
-/

namespace ShapeKit

open Json

/-- An error as a JSON object. -/
def errorNode (kind message : String) : Node := .obj [("error", .str kind), ("message", .str message)]

/-- A selector syntax error as a JSON object, with its position. -/
def selectorErrorNode (e : Selector.SyntaxError) : Node :=
  .obj [("error", .str "SelectorSyntaxError"), ("message", .str e.text), ("position", .num (.nat e.position))]

/-- IDs as an array of strings. -/
def idsNode (ids : List ShapeId) : Node := .arr (ids.map fun i => .str i.text)

/-- What to put in a report besides the broken flag, the size and the events. -/
structure ReportOptions where
  ast : Bool := true
  astPretty : Bool := false
  select : Option (List String) := none
  nodeChecks : Option (List (String × Node)) := none
  neighbors : Option Bool := none
  definitions : Bool := false
  metadataOut : Bool := false
  intoResult : Bool := false
  atLeast : Option String := none

/-- The shapes a selector selects, or its syntax error. -/
def selectNode (m : Model) (expression : String) : Node :=
  match Selector.parse expression with
  | .ok s => idsNode (s.select m)
  | .error e => selectorErrorNode e

/-- The problems of a value for a shape, or the shape ID's error; `none` when
the check never ends. -/
def nodeCheckNode (m : Model) (shape : String) (value : Node) : Option Node :=
  match ShapeId.parse shape with
  | .error e => some (errorNode e.kind e.message)
  | .ok id =>
    (checkNode m value id).map fun vs => .arr (vs.map fun v =>
      .obj [("path", .str v.path), ("message", .str v.message), ("text", .str v.text)])

/-- The relationships of every user shape, as text; `(unresolved)` marks
neighbors the model lacks. -/
def neighborLines (m : Model) (withTraits : Bool) : List String :=
  (m.shapes.filter fun s => !s.id.isPrelude).flatMap fun s =>
    (neighbors m withTraits s).map fun r =>
      if m.contains r.neighbor then r.text else r.text ++ " (unresolved)"

/-- The events at or above a severity, as text, or the severity's error. -/
def atLeastNode (events : List Event) (severity : String) : Node :=
  match Severity.parse severity with
  | .ok sev => .arr ((events.filter (·.severity.atLeast sev)).map fun e => .str e.text)
  | .error msg => errorNode "InvalidSeverity" msg

/-- The report of an assembled model; `none` when one of its node checks never
ends. -/
def ValidatedResult.report (r : ValidatedResult) (o : ReportOptions) : Option Node := do
  let m := r.model
  let checks ← o.nodeChecks.mapM fun checks => checks.mapM fun (shape, value) => nodeCheckNode m shape value
  let entries : List (String × Node) :=
    [("broken", .bool r.isBroken), ("shape_count", .num (.nat m.size)),
     ("events", .arr (r.events.map Event.toNode))] ++
    (if o.ast then [("ast", m.toDocument)] else []) ++
    (if o.astPretty then [("ast_pretty", .str m.toDocument.pretty)] else []) ++
    (o.select.toList.map fun exprs => ("select", .arr (exprs.map (selectNode m)))) ++
    (checks.toList.map fun found => ("node_checks", .arr found)) ++
    (o.neighbors.toList.map fun withTraits =>
      ("neighbors", .arr ((neighborLines m withTraits).map Node.str))) ++
    (if o.definitions then
      [("trait_definitions", .obj ((m.traitDefinitions.filter fun (id, _) => !id.isPrelude).map
        fun (id, d) => (id.text, d.toNode)))]
     else []) ++
    (if o.metadataOut then [("metadata", .obj m.metadata)] else []) ++
    (if o.intoResult then
      [("into_result", match r.intoResult with
        | .ok _ => .null
        | .error events =>
          .obj [("events", .arr (events.map Event.toNode)), ("text", .str (ValidatedResult.brokenText events))])]
     else []) ++
    (o.atLeast.toList.map fun sev => ("at_least", atLeastNode r.events sev))
  return .obj entries

end ShapeKit
