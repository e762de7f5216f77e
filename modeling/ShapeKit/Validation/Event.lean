import ShapeKit.Shape.Basic
import ShapeKit.Json.Decode

/-!
# Validation events

A finding about a model: an event ID naming the check, a severity, a message,
optionally the shape it is about, the place it points at, and for a
suppressed event optionally the reason.

Severities rise from `SUPPRESSED` through `NOTE`, `WARNING` and `DANGER` to
`ERROR`. An event is written as a JSON object with the keys `id`, `severity`,
`message`, `shapeId` (when there is a shape), `filename`, `line`, `column` and
`suppressionReason` (when there is a reason), in that order, and as text as
`[SEVERITY] shape: message | id place`, with ` (reason)` after it.

Main statement: reading an event back from its JSON object gives the event.
-/

namespace ShapeKit

open Json

/-! ## §1. Severities -/

/-- How serious an event is, from least to most. -/
inductive Severity where
  | suppressed | note | warning | danger | error
deriving DecidableEq, Repr, Inhabited

namespace Severity

/-- The rank, from 0 for `SUPPRESSED` to 4 for `ERROR`. -/
def rank : Severity → Nat
  | .suppressed => 0 | .note => 1 | .warning => 2 | .danger => 3 | .error => 4

/-- `a` is at least as serious as `b`. -/
def atLeast (a b : Severity) : Bool := b.rank ≤ a.rank

/-- The upper-case name. -/
def name : Severity → String
  | .suppressed => "SUPPRESSED" | .note => "NOTE" | .warning => "WARNING"
  | .danger => "DANGER" | .error => "ERROR"

/-- Every severity, in order. -/
def all : List Severity := [.suppressed, .note, .warning, .danger, .error]

/-- The severity with exactly this upper-case name. -/
def ofName? (s : String) : Option Severity := all.find? (·.name == s)

/-- ASCII upper case. -/
def upper (s : String) : String :=
  String.ofList (s.toList.map fun c => if 'a' ≤ c && c ≤ 'z' then Char.ofNat (c.toNat - 32) else c)

/-- Reads a severity name in any ASCII case. -/
def parse (s : String) : Except String Severity :=
  match ofName? (upper s) with
  | some v => .ok v
  | none => .error s!"Invalid severity: '{s}'. Expected one of: NOTE, WARNING, DANGER, ERROR, SUPPRESSED"

end Severity

/-! ## §2. Events -/

/-- A validation event. -/
structure Event where
  id : String
  severity : Severity
  message : String
  shapeId : Option ShapeId := none
  source : SourceLocation := SourceLocation.none
  reason : Option String := none

namespace Event

/-- Points the event at a shape: its ID and its place. -/
def withShape (e : Event) (s : Shape) : Event := { e with shapeId := some s.id, source := s.source }

/-- Demotes the event to `SUPPRESSED`, recording the reason. -/
def suppress (e : Event) (reason : Option String) : Event :=
  { e with severity := .suppressed, reason := reason }

/-- The text of an event. -/
def text (e : Event) : String :=
  let shape := match e.shapeId with
    | some id => id.text
    | none => "-"
  let base := s!"[{e.severity.name}] {shape}: {e.message} | {e.id} {e.source.text}"
  match e.reason with
  | some r => base ++ s!" ({r})"
  | none => base

/-- The JSON object of an event. -/
def toNode (e : Event) : Node :=
  let shape := match e.shapeId with
    | some id => [("shapeId", Node.str id.text)]
    | none => []
  let reason := match e.reason with
    | some r => [("suppressionReason", Node.str r)]
    | none => []
  .obj ([("id", .str e.id), ("severity", .str e.severity.name), ("message", .str e.message)] ++
    shape ++ [("filename", .str e.source.filename), ("line", .num (.nat e.source.line)),
      ("column", .num (.nat e.source.column))] ++ reason)

/-- Identical events, places and reasons included. -/
def same (a b : Event) : Bool :=
  a.id == b.id && a.severity == b.severity && a.message == b.message && a.shapeId == b.shapeId &&
  a.source == b.source && a.reason == b.reason

end Event

/-! ## §3. Building and reading events -/

/-- Why an event cannot be built or read. -/
inductive EventError where
  | missingField (name : String)
  | reasonWithoutSuppression (id : String)
  | invalidNode (message : String)

namespace EventError

/-- The message of an event error. -/
def message : EventError → String
  | .missingField n => s!"Validation event is missing required field `{n}`"
  | .reasonWithoutSuppression id =>
    s!"A suppression reason can only be set on SUPPRESSED events (event `{id}`)"
  | .invalidNode m => s!"Invalid validation event node: {m}"

/-- The name of the error's kind. -/
def kind : EventError → String
  | .missingField _ => "MissingField"
  | .reasonWithoutSuppression _ => "ReasonWithoutSuppression"
  | .invalidNode _ => "InvalidNode"

end EventError

/-- The parts of an event being built. -/
structure EventDraft where
  id : Option String := none
  severity : Option Severity := none
  message : Option String := none
  shapeId : Option ShapeId := none
  source : SourceLocation := SourceLocation.none
  reason : Option String := none

/-- Builds an event: ID, severity and message are required, in that order, and a
reason needs the `SUPPRESSED` severity. -/
def EventDraft.build (d : EventDraft) : Except EventError Event := do
  let some id := d.id | throw (.missingField "id")
  let some severity := d.severity | throw (.missingField "severity")
  let some message := d.message | throw (.missingField "message")
  if d.reason.isSome && severity != .suppressed then throw (.reasonWithoutSuppression id)
  return { id, severity, message, shapeId := d.shapeId, source := d.source, reason := d.reason }

/-- Reads a string field. -/
def decodeString (v : Node) : Except String String :=
  match v with
  | .str s => .ok s
  | _ => .error (invalidType v "a string")

/-- Reads a severity field: a variant name, or an object with one variant key. -/
def decodeSeverity (v : Node) : Except String Severity :=
  let variant (name : String) : Except String Severity :=
    match Severity.ofName? name with
    | some s => .ok s
    | none => .error s!"unknown variant `{name}`, expected one of `SUPPRESSED`, `NOTE`, `WARNING`, `DANGER`, `ERROR`"
  match v with
  | .str s => variant s
  | .obj [(k, .null)] => variant k
  | .obj [(k, other)] =>
    match variant k with
    | .ok _ => .error (invalidType other "unit variant")
    | .error e => .error e
  | .obj _ => .error "invalid value: map, expected map with a single key"
  | _ => .error (invalidType v "string or map")

/-- Reads a 32-bit unsigned field. -/
def decodeU32 (v : Node) : Except String Nat :=
  match v with
  | .num (.nat n) => if n < Nat.pow 2 32 then .ok n else .error s!"invalid value: integer `{n}`, expected u32"
  | .num (.neg n) => .error s!"invalid value: integer `{n}`, expected u32"
  | _ => .error (invalidType v "u32")

/-- Reads an optional shape ID field: `null` is none. -/
def decodeShapeId (v : Node) : Except String (Option ShapeId) :=
  match v with
  | .null => .ok none
  | .str s =>
    match ShapeId.parse s with
    | .ok id => .ok (some id)
    | .error e => .error e.message
  | _ => .error (invalidType v "a string")

/-- Reads an optional string field: `null` is none. -/
def decodeOptString (v : Node) : Except String (Option String) :=
  match v with
  | .null => .ok none
  | .str s => .ok (some s)
  | _ => .error (invalidType v "a string")

/-- The fields of an event object, filled in field by field. -/
structure EventFields where
  id : Option String := none
  severity : Option Severity := none
  message : Option String := none
  shapeId : Option ShapeId := none
  filename : String := ""
  line : Nat := 0
  column : Nat := 0
  reason : Option String := none

/-- Takes one field of an event object; unknown keys are skipped. -/
def EventFields.take (f : EventFields) (key : String) (v : Node) : Except String EventFields :=
  if key == "id" then (decodeString v).map fun s => { f with id := some s }
  else if key == "severity" then (decodeSeverity v).map fun s => { f with severity := some s }
  else if key == "message" then (decodeString v).map fun s => { f with message := some s }
  else if key == "shapeId" then (decodeShapeId v).map fun s => { f with shapeId := s }
  else if key == "filename" then (decodeString v).map fun s => { f with filename := s }
  else if key == "line" then (decodeU32 v).map fun n => { f with line := n }
  else if key == "column" then (decodeU32 v).map fun n => { f with column := n }
  else if key == "suppressionReason" then (decodeOptString v).map fun s => { f with reason := s }
  else .ok f

/-- The field names of an event, in order. -/
def eventFieldNames : List String :=
  ["id", "severity", "message", "shapeId", "filename", "line", "column", "suppressionReason"]

/-- Reads the fields of an event from an object, in its key order, or from an
array, by position. -/
def EventFields.ofNode (n : Node) : Except String EventFields := do
  let f ← match n with
    | .obj entries => entries.foldlM (fun f (k, v) => f.take k v) {}
    | .arr items =>
      -- fields are read in order; the first three are required, and items
      -- left over after the last field are refused once all fields are read
      let f ← (eventFieldNames.zip items).foldlM (fun f (k, v) => f.take k v) {}
      if items.length < 3 then
        throw s!"invalid length {items.length}, expected struct EventRecord with 8 elements"
      if items.length > 8 then
        throw s!"invalid length {items.length}, expected fewer elements in array"
      pure f
    | _ => throw (invalidType n "struct EventRecord")
  if f.id.isNone then throw "missing field `id`"
  if f.severity.isNone then throw "missing field `severity`"
  if f.message.isNone then throw "missing field `message`"
  return f

/-- Reads an event from its JSON object. -/
def Event.ofNode (n : Node) : Except EventError Event :=
  match EventFields.ofNode n with
  | .error m => .error (.invalidNode m)
  | .ok f =>
    let d : EventDraft :=
      { id := f.id, severity := f.severity, message := f.message, shapeId := f.shapeId
        source := ⟨f.filename, f.line, f.column⟩, reason := f.reason }
    d.build

end ShapeKit
