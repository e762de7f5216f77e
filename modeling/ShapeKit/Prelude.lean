import ShapeKit.Model.Basic
import ShapeKit.Shape.Builder
import ShapeKit.Trait.Typed

/-!
# The prelude

The shapes every model may refer to without defining them, in the namespace
`smithy.api`: the thirteen simple types (`String`, `Integer`, …), the private
list `StringList`, and the definitions of the prelude traits. Structured
traits (`trait`, `deprecated`, `http`, `length`, `range`) are structures with
members, list traits (`tags`, `suppress`) are lists of strings, string traits
are strings, `httpError` is an integer and annotation traits are booleans.

Each trait definition carries the `trait` trait, whose value says where the
trait may be applied and which traits it conflicts with.
-/

namespace ShapeKit

open Json

/-! ## §1. Building the prelude -/

/-- The simple prelude shapes, by name and type. -/
def simplePreludeShapes : List (String × ShapeType) :=
  [("Blob", .blob), ("Boolean", .boolean), ("String", .string), ("Byte", .byte), ("Short", .short),
   ("Integer", .integer), ("Long", .long), ("Float", .float), ("Double", .double),
   ("BigInteger", .bigInteger), ("BigDecimal", .bigDecimal), ("Timestamp", .timestamp),
   ("Document", .document)]

/-- A prelude trait applied with a value. -/
def preludeTrait (name : String) (value : Node) : Trait := { id := ShapeId.prelude name, value }

/-- A prelude annotation trait. -/
def annotationTrait (name : String) : Trait := preludeTrait name (.bool true)

/-- A trait definition value with a selector and further properties. -/
def definitionValue (selector : Option String) (more : List (String × Node)) : Node :=
  .obj ((selector.map fun s => [("selector", Node.str s)]).getD [] ++ more)

/-- Names as a JSON list of strings. -/
def nameList (names : List String) : Node := .arr (names.map Node.str)

/-- A prelude shape with some members, each targeting a prelude shape and
optionally required. -/
def preludeShape (t : ShapeType) (name : String) (members : List (String × String × Bool))
    (traits : List Trait) : Builder :=
  let b := (Builder.new t).setId (ShapeId.prelude name)
  let b := members.foldl (fun b (m, target, required) =>
    b.memberWith m (ShapeId.prelude target)
      (fun mb => if required then mb.addTrait (annotationTrait "required") else mb)) b
  traits.foldl Builder.addTrait b

/-- The selector of traits that apply to members of structures. -/
def memberSelector : String := "structure > member"

/-- The builders of every prelude shape. -/
def preludeBuilders : List Builder :=
  let simple := simplePreludeShapes.map fun (n, t) => (Builder.new t).setId (ShapeId.prelude n)
  let defn (t : ShapeType) (name : String) (value : Node) : Builder :=
    preludeShape t name [] [preludeTrait "trait" value]
  simple ++
  [preludeShape .list "StringList" [("member", "String", false)] [annotationTrait "private"],
   preludeShape .structure "trait"
     [("selector", "String", false), ("structurallyExclusive", "String", false),
      ("conflicts", "StringList", false), ("tags", "StringList", false)]
     [preludeTrait "trait" (definitionValue (some ":is(simpleType, collection, map, structure, union)") [])],
   preludeShape .structure "deprecated" [("message", "String", false), ("since", "String", false)]
     [preludeTrait "trait" (.obj [])],
   preludeShape .structure "http"
     [("method", "String", true), ("uri", "String", true), ("code", "Integer", false)]
     [preludeTrait "trait" (definitionValue (some "operation") [])],
   preludeShape .structure "length" [("min", "Long", false), ("max", "Long", false)]
     [preludeTrait "trait" (definitionValue (some ":is(string, blob, collection, map, member)") [])],
   preludeShape .structure "range" [("min", "BigDecimal", false), ("max", "BigDecimal", false)]
     [preludeTrait "trait" (definitionValue (some ":is(number, member)") [])],
   preludeShape .list "tags" [("member", "String", false)] [preludeTrait "trait" (.obj [])],
   preludeShape .list "suppress" [("member", "String", false)] [preludeTrait "trait" (.obj [])],
   defn .string "documentation" (.obj []),
   defn .string "error" (definitionValue (some "structure") []),
   defn .string "httpQuery" (definitionValue (some memberSelector)
     [("conflicts", nameList ["httpLabel", "httpHeader", "httpQueryParams"])]),
   defn .string "httpHeader" (definitionValue (some memberSelector)
     [("conflicts", nameList ["httpLabel", "httpQuery", "httpQueryParams"])]),
   defn .string "pattern" (definitionValue (some ":is(string, member)") []),
   defn .integer "httpError" (definitionValue (some "structure") []),
   defn .boolean "required" (definitionValue (some memberSelector) []),
   defn .boolean "box" (definitionValue (some ":is(boolean, number, member)") []),
   defn .boolean "sensitive"
     (definitionValue (some ":is(simpleType, collection, map, structure, union, member)") []),
   defn .boolean "httpLabel" (definitionValue (some memberSelector)
     [("conflicts", nameList ["httpHeader", "httpQuery", "httpQueryParams"])]),
   defn .boolean "httpQueryParams" (definitionValue (some memberSelector)
     [("structurallyExclusive", .str "member")]),
   defn .boolean "httpPayload" (definitionValue (some memberSelector)
     [("structurallyExclusive", .str "member"),
      ("conflicts", nameList ["httpLabel", "httpQuery", "httpHeader", "httpQueryParams"])]),
   defn .boolean "streaming" (definitionValue (some "blob") [("structurallyExclusive", .str "target")]),
   defn .boolean "private" (.obj []),
   defn .boolean "readonly" (definitionValue (some "operation") []),
   defn .boolean "idempotent" (definitionValue (some "operation") [("conflicts", nameList ["readonly"])])]

/-- The prelude model. -/
def prelude : Model :=
  Model.insertShapes {} (preludeBuilders.filterMap fun b => b.build.toOption)

/-- Whether a shape ID names a prelude shape. -/
def isPreludeShape (id : ShapeId) : Bool := prelude.contains id

/-- Whether a shape ID names a prelude shape that models may refer to: every
prelude shape but the private ones. -/
def isPublicPreludeShape (id : ShapeId) : Bool :=
  match prelude.get? id with
  | some s => !s.hasPreludeTrait "private"
  | none => false

/-! ## §2. Trait definitions of a model -/

/-- The trait definitions of a model, in ID order: every shape with the `trait`
trait whose value reads as a definition. -/
def Model.traitDefinitions (m : Model) : List (ShapeId × TraitDefinition) :=
  (m.shapesWithTrait (ShapeId.prelude "trait")).filterMap fun s =>
    match s.getTrait (ShapeId.prelude "trait") with
    | some t =>
      match TraitDefinition.ofNode t.value with
      | .ok d => some (s.id, d)
      | .error _ => none
    | none => none

/-- The definition of one trait. -/
def Model.traitDefinition? (m : Model) (id : ShapeId) : Option TraitDefinition :=
  (m.traitDefinitions.find? (·.1 == id)).map (·.2)

end ShapeKit
