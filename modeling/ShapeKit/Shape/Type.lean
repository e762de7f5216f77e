/-!
# Shape types

The twenty-two types of shapes, in their fixed order: the thirteen simple types
(`blob` up to `document`), the aggregates `list`, `set`, `map`, `structure`
and `union`, then `member`, `operation`, `resource` and `service`. Names are
written in lower camel case (`bigInteger`), and only the exact name reads back.

Main statement: `ShapeType.ofName? t.name = some t` for every type.
-/

namespace ShapeKit

/-- The type of a shape. -/
inductive ShapeType where
  | blob | boolean | string | byte | short | integer | long | float | double
  | bigInteger | bigDecimal | timestamp | document
  | list | set | map | «structure» | union
  | member | operation | resource | service
deriving DecidableEq, Repr, Inhabited

namespace ShapeType

/-- Every type, in order. -/
def all : List ShapeType :=
  [.blob, .boolean, .string, .byte, .short, .integer, .long, .float, .double,
   .bigInteger, .bigDecimal, .timestamp, .document, .list, .set, .map, .structure, .union,
   .member, .operation, .resource, .service]

/-- The name of a type. -/
def name : ShapeType → String
  | .blob => "blob" | .boolean => "boolean" | .string => "string" | .byte => "byte"
  | .short => "short" | .integer => "integer" | .long => "long" | .float => "float"
  | .double => "double" | .bigInteger => "bigInteger" | .bigDecimal => "bigDecimal"
  | .timestamp => "timestamp" | .document => "document" | .list => "list" | .set => "set"
  | .map => "map" | .structure => "structure" | .union => "union" | .member => "member"
  | .operation => "operation" | .resource => "resource" | .service => "service"

instance : ToString ShapeType := ⟨name⟩

/-- The position of a type in `all`. -/
def index : ShapeType → Nat
  | .blob => 0 | .boolean => 1 | .string => 2 | .byte => 3 | .short => 4 | .integer => 5
  | .long => 6 | .float => 7 | .double => 8 | .bigInteger => 9 | .bigDecimal => 10
  | .timestamp => 11 | .document => 12 | .list => 13 | .set => 14 | .map => 15
  | .structure => 16 | .union => 17 | .member => 18 | .operation => 19 | .resource => 20
  | .service => 21

/-- The type with exactly this name. -/
def ofName? (s : String) : Option ShapeType := all.find? (·.name == s)

/-- The message for a name that is no type. -/
def unknownMessage (s : String) : String := s!"Unknown shape type: '{s}'"

/-- Reads a type name. -/
def parse (s : String) : Except String ShapeType :=
  match ofName? s with
  | some t => .ok t
  | none => .error (unknownMessage s)

/-- The eight number types, `byte` to `bigDecimal`. -/
def isNumber (t : ShapeType) : Bool := 3 ≤ t.index && t.index ≤ 10

/-- The simple types, `blob` to `document`. -/
def isSimple (t : ShapeType) : Bool := t.index ≤ 12

/-- Lists and sets. -/
def isCollection (t : ShapeType) : Bool := t == .list || t == .set

/-- The shapes that hold members: lists, sets, maps, structures and unions. -/
def isAggregate (t : ShapeType) : Bool := 13 ≤ t.index && t.index ≤ 17

theorem ofName?_name (t : ShapeType) : ofName? t.name = some t := by
  cases t <;> rfl

end ShapeType

end ShapeKit
