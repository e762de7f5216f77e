import ShapeKit.ShapeId
import ShapeKit.Json.Value

/-!
# URI patterns

The URI pattern of an HTTP binding, such as
`/things/{thingId}/children/{rest+}?tag=1`. It starts with `/`; its path is
split at `/` with empty pieces dropped, and each piece is a literal or a label
`{name}`, `{name+}` for a greedy label. Label names are identifiers, distinct,
and at most one is greedy. The query string after the first `?` holds no
braces.

The checks run in this order: the leading slash; braces in the query; then,
piece by piece, the label's name, its uniqueness, a second greedy label, and
braces in a literal.
-/

namespace ShapeKit

/-- A label of a URI pattern. -/
structure UriLabel where
  name : String
  greedy : Bool
deriving DecidableEq, Repr

/-- A piece of a URI path. -/
inductive UriSegment where
  | literal (text : String)
  | label (l : UriLabel)
deriving DecidableEq, Repr

/-- A checked URI pattern: its text, path pieces and query string. -/
structure UriPattern where
  pattern : String
  segments : List UriSegment
  query : Option String
deriving DecidableEq, Repr

/-- Why a text is no URI pattern. -/
inductive UriPatternError where
  | missingLeadingSlash (pattern : String)
  | invalidLabel (segment : String)
  | duplicateLabel (name : String)
  | multipleGreedyLabels (pattern : String)
  | labelInQuery (pattern : String)
deriving DecidableEq, Repr

namespace UriPatternError

/-- The message of a URI pattern error. -/
def message : UriPatternError → String
  | .missingLeadingSlash p => s!"URI pattern must start with '/': '{p}'"
  | .invalidLabel s => s!"Invalid URI label in segment '{s}'"
  | .duplicateLabel n => s!"Duplicate URI label '{n}'"
  | .multipleGreedyLabels p => s!"At most one greedy label is allowed in a URI pattern: '{p}'"
  | .labelInQuery p => s!"Labels are not allowed in the query string of a URI pattern: '{p}'"

/-- The name of the error's kind. -/
def kind : UriPatternError → String
  | .missingLeadingSlash _ => "MissingLeadingSlash"
  | .invalidLabel _ => "InvalidLabel"
  | .duplicateLabel _ => "DuplicateLabel"
  | .multipleGreedyLabels _ => "MultipleGreedyLabels"
  | .labelInQuery _ => "LabelInQuery"

end UriPatternError

namespace UriPattern

/-- The labels in path order. -/
def labels (u : UriPattern) : List UriLabel :=
  u.segments.filterMap fun
    | .label l => some l
    | .literal _ => none

/-- The label with a name. -/
def label? (u : UriPattern) (name : String) : Option UriLabel := u.labels.find? (·.name == name)

/-- The inside of a piece written `{...}`. -/
def braced? (raw : List Char) : Option (List Char) :=
  match raw with
  | '{' :: rest => if rest.getLast? == some '}' then some rest.dropLast else none
  | _ => none

/-- Reads the path pieces, left to right. -/
def readSegments (pattern : String) : List String → List UriSegment → Bool →
    Except UriPatternError (List UriSegment)
  | [], acc, _ => .ok acc.reverse
  | raw :: rest, acc, seenGreedy =>
    match braced? raw.toList with
    | some inner =>
      let (nameChars, greedy) :=
        if inner.getLast? == some '+' then (inner.dropLast, true) else (inner, false)
      let name := String.ofList nameChars
      if !isIdentifier name then .error (.invalidLabel raw)
      else if acc.any (fun s => match s with | .label l => l.name == name | _ => false) then
        .error (.duplicateLabel name)
      else if greedy && seenGreedy then .error (.multipleGreedyLabels pattern)
      else readSegments pattern rest (.label ⟨name, greedy⟩ :: acc) (seenGreedy || greedy)
    | none =>
      if raw.contains '{' || raw.contains '}' then .error (.invalidLabel raw)
      else readSegments pattern rest (.literal raw :: acc) seenGreedy

/-- Reads and checks a URI pattern. -/
def parse (pattern : String) : Except UriPatternError UriPattern :=
  match pattern.toList with
  | '/' :: _ =>
    let (path, query) :=
      match ShapeId.splitFirst '?' pattern.toList with
      | some (p, q) => (String.ofList p, some (String.ofList q))
      | none => (pattern, none)
    match query with
    | some q =>
      if q.contains '{' || q.contains '}' then .error (.labelInQuery pattern)
      else (readSegments pattern (pieces path) [] false).map fun segs => ⟨pattern, segs, query⟩
    | none => (readSegments pattern (pieces path) [] false).map fun segs => ⟨pattern, segs, query⟩
  | _ => .error (.missingLeadingSlash pattern)
where
  /-- The non-empty pieces of the path after its leading slash. -/
  pieces (path : String) : List String :=
    (String.ofList (path.toList.drop 1)).splitToList (· == '/') |>.filter (!·.isEmpty)

/-- The pattern as a JSON object: its text, its segments and its query. -/
def toNode (u : UriPattern) : Json.Node :=
  .obj [("pattern", .str u.pattern),
    ("segments", .arr (u.segments.map fun
      | .literal s => .obj [("literal", .str s)]
      | .label l => .obj [("label", .str l.name), ("greedy", .bool l.greedy)])),
    ("query", match u.query with
      | some q => .str q
      | none => .null)]

end UriPattern

end ShapeKit
