import ShapeKit.Model.Basic
import ShapeKit.Trait.Typed
import ShapeKit.Json.Writer

/-!
# Checking node values against shapes

A node value (a trait value, an example) is checked against a shape of a
model: strings and blobs take strings, booleans booleans, integer types
integers within their bounds, other numbers any number, timestamps numbers or
RFC 3339 date-times, documents anything; lists and sets take arrays (set
items distinct), maps objects (keys checked against the key member), and
structures and unions objects whose keys are members (required members
present, a union exactly one). Members pass the value on to their target, so
a member whose chain of targets comes back to it is checked for ever: the
check then gives `none`. The `length`, `range` and `pattern` traits of a shape
or member constrain the value further.

Each problem is reported with the path to the offending value: object keys
joined by `.`, array items as `[i]`.
-/

namespace ShapeKit

open Json

/-! ## §1. RFC 3339 date-times -/

/-- The value of two ASCII digits. -/
def twoDigits? (a b : Char) : Option Nat :=
  if a.isDigit && b.isDigit then some (10 * (a.toNat - 48) + (b.toNat - 48)) else none

/-- Whether a year is a leap year. -/
def isLeapYear (y : Nat) : Bool := y % 4 == 0 && (y % 100 != 0 || y % 400 == 0)

/-- The number of days of a month. -/
def daysInMonth (y m : Nat) : Nat :=
  if m == 2 then (if isLeapYear y then 29 else 28)
  else if m == 4 || m == 6 || m == 9 || m == 11 then 30
  else 31

/-- Whether the rest of a date-time is a zone: `Z`, or a sign, hours, `:` and
minutes within `23:59`. -/
def isZone : List Char → Bool
  | ['Z'] | ['z'] => true
  | [sign, h1, h2, ':', m1, m2] =>
    (sign == '+' || sign == '-' || sign == '−') &&
      match twoDigits? h1 h2, twoDigits? m1 m2 with
      | some h, some m => h ≤ 23 && m ≤ 59
      | _, _ => false
  | _ => false

/-- Whether the rest of a date-time is an optional fraction of a second and a zone. -/
def isFractionAndZone : List Char → Bool
  | '.' :: rest =>
    let ds := rest.takeWhile Char.isDigit
    !ds.isEmpty && isZone (rest.drop ds.length)
  | rest => isZone rest

/-- Whether a text is an RFC 3339 date-time such as `1985-04-12T23:20:50.52Z`;
the date and time may also be separated by `t` or a space. -/
def isDateTime (s : String) : Bool :=
  match s.toList with
  | y1 :: y2 :: y3 :: y4 :: '-' :: mo1 :: mo2 :: '-' :: d1 :: d2 :: sep :: h1 :: h2 :: ':' ::
      mi1 :: mi2 :: ':' :: s1 :: s2 :: rest =>
    match twoDigits? y1 y2, twoDigits? y3 y4, twoDigits? mo1 mo2, twoDigits? d1 d2,
        twoDigits? h1 h2, twoDigits? mi1 mi2, twoDigits? s1 s2 with
    | some ya, some yb, some mo, some d, some h, some mi, some sec =>
      let y := 100 * ya + yb
      (sep == 'T' || sep == 't' || sep == ' ') && 1 ≤ mo && mo ≤ 12 && 1 ≤ d &&
        d ≤ daysInMonth y mo && h ≤ 23 && mi ≤ 59 && sec ≤ 60 && isFractionAndZone rest
    | _, _, _, _, _, _, _ => false
  | _ => false

/-! ## §2. Violations -/

/-- A problem with a node value: the path to it and what is wrong. -/
structure NodeViolation where
  path : String
  message : String
deriving DecidableEq, Repr

/-- `path: message`, or just the message at the top. -/
def NodeViolation.text (v : NodeViolation) : String :=
  if v.path.isEmpty then v.message else s!"{v.path}: {v.message}"

/-- A path extended by an object key. -/
def joinPath (path key : String) : String := if path.isEmpty then key else s!"{path}.{key}"

/-- The bounds of the bounded integer types. -/
def integerBounds : ShapeType → Option (Int × Int)
  | .byte => some (-128, 127)
  | .short => some (-32768, 32767)
  | .integer => some (-2147483648, 2147483647)
  | .long => some (-9223372036854775808, 9223372036854775807)
  | _ => none

/-- The length of a string (in characters), array or object. -/
def nodeLength? : Node → Option Nat
  | .str s => some s.length
  | .arr xs => some xs.length
  | .obj es => some es.length
  | _ => none

/-- The problems the `length`, `range` and `pattern` traits of a shape find
with a value. Trait values that do not read are ignored. -/
def constraintViolations (s : Shape) (value : Node) (path : String) : List NodeViolation :=
  let lengthIssues : List String :=
    match s.getTrait (ShapeId.prelude "length") with
    | some t =>
      match LengthBounds.ofNode t.value, nodeLength? value with
      | .ok b, some len =>
        (match b.min with
          | some lo => if len < lo then [s!"Value with length {len} is shorter than the minimum length of {lo}"] else []
          | none => []) ++
        (match b.max with
          | some hi => if len > hi then [s!"Value with length {len} is longer than the maximum length of {hi}"] else []
          | none => [])
      | _, _ => []
    | none => []
  let rangeIssues : List String :=
    match s.getTrait (ShapeId.prelude "range") with
    | some t =>
      match RangeBounds.ofNode t.value, value.asFloat? with
      | .ok b, some x =>
        (match b.min with
          | some lo =>
            if x < lo then [s!"Value {Decimal.plainText x} is less than the minimum of {Decimal.plainText lo}"] else []
          | none => []) ++
        (match b.max with
          | some hi =>
            if x > hi then [s!"Value {Decimal.plainText x} is greater than the maximum of {Decimal.plainText hi}"] else []
          | none => [])
      | _, _ => []
    | none => []
  let patternIssues : List String :=
    match s.getTrait (ShapeId.prelude "pattern") with
    | some t =>
      match readPattern t.value, value with
      | .ok p, .str text =>
        if p.matches text then []
        else [s!"String value `{text}` does not match the required pattern `{p.source}`"]
      | _, _ => []
    | none => []
  (lengthIssues ++ rangeIssues ++ patternIssues).map (⟨path, ·⟩)

/-! ## §3. Walking a value -/

mutual
/-- The number of nodes in a value, bounding how deep a check can go. -/
def nodeSize : Node → Nat
  | .arr xs => 1 + nodeSizeItems xs
  | .obj es => 1 + nodeSizeEntries es
  | _ => 1

/-- The number of nodes in a list of values. -/
def nodeSizeItems : List Node → Nat
  | [] => 0
  | x :: rest => nodeSize x + nodeSizeItems rest

/-- The number of nodes in the values of object entries. -/
def nodeSizeEntries : List (String × Node) → Nat
  | [] => 0
  | (_, v) :: rest => nodeSize v + nodeSizeEntries rest
end

/-- The problems of a simple value for a simple shape. -/
def simpleViolations (s : Shape) (t : ShapeType) (value : Node) (typeError : String → String) :
    List String :=
  match t with
  | .blob | .string => if value.asStr?.isSome then [] else [typeError "string"]
  | .boolean => if value.asBool?.isSome then [] else [typeError "boolean"]
  | .byte | .short | .integer | .long | .bigInteger =>
    match value with
    | .num (.float _) => [typeError "integer"]
    | .num n =>
      match integerBounds t with
      | some (lo, hi) =>
        let fits := match n.toInt64? with
          | some v => lo ≤ v && v ≤ hi
          | none => false
        if fits then [] else [s!"{t.name} value {n.text} is out of range for shape `{s.id.text}`"]
      | none => []
    | _ => [typeError "integer"]
  | .float | .double | .bigDecimal => if value.asNum?.isSome then [] else [typeError "number"]
  | .timestamp =>
    match value with
    | .num _ => []
    | .str text =>
      if isDateTime text then []
      else [s!"Invalid timestamp `{text}` for shape `{s.id.text}`: expected an RFC 3339 date-time"]
    | _ => [typeError "timestamp"]
  | _ => []

/-- Whether the compact texts of a list of values are distinct. -/
def distinctTexts (items : List Node) : Bool :=
  let texts := items.map Node.compact
  texts.eraseDups.length == texts.length

/-- The problems of a value for the shape with an ID, or `none` when the walk
does not end within `fuel` steps. A member passes its value on to its target
unchanged, so a member whose chain of targets comes back to it is walked for
ever. -/
def visitValue (m : Model) : Nat → Node → ShapeId → String → Option (List NodeViolation)
  | 0, _, _, _ => none
  | fuel + 1, value, id, path =>
    match m.get? id with
    | none => some [⟨path, s!"Unable to resolve shape `{id.text}`"⟩]
    | some s =>
      let typeError (expected : String) : String :=
        s!"Expected {expected} value for {s.type.name} shape `{s.id.text}`, found {(NodeType.of value).name}"
      let report (msg : String) : Option (List NodeViolation) := some [⟨path, msg⟩]
      let members (entries : List (String × Node)) : Option (List NodeViolation) :=
        List.flatten <$> entries.mapM fun (name, v) =>
          match s.member? name with
          | some mem => visitValue m fuel v mem.id (joinPath path name)
          | none =>
            let valid := ", ".intercalate (s.memberShapes.filterMap fun x => x.memberName.map fun n => s!"`{n}`")
            report s!"Invalid member `{name}` for `{s.id.text}`; valid members are [{valid}]"
      match s.body with
      | .member target => (constraintViolations s value path ++ ·) <$> visitValue m fuel value target path
      | .simple t => some ((simpleViolations s t value typeError).map (⟨path, ·⟩) ++ constraintViolations s value path)
      | .list mm | .set mm =>
        match value with
        | .arr items =>
          let unique := if s.type == .set && !distinctTexts items then
              [⟨path, s!"Set values of `{s.id.text}` must be unique"⟩] else []
          (fun inner => unique ++ inner.flatten ++ constraintViolations s value path) <$>
            items.zipIdx.mapM fun (item, i) => visitValue m fuel item mm.id s!"{path}[{i}]"
        | _ => report (typeError "array")
      | .map k v =>
        match value with
        | .obj entries =>
          (fun inner => inner.flatten ++ constraintViolations s value path) <$>
            entries.mapM fun (key, val) => do
              let keyIssues ← visitValue m fuel (.str key) k.id (joinPath path key)
              let valueIssues ← visitValue m fuel val v.id (joinPath path key)
              pure (keyIssues ++ valueIssues)
        | _ => report (typeError "object")
      | .structure ms =>
        match value with
        | .obj entries =>
          let missing := ms.filterMap fun mem =>
            let name := mem.id.member.getD ""
            if mem.traits.contains (ShapeId.prelude "required") && (Node.lookup name entries).isNone then
              some (⟨path, s!"Missing required structure member `{name}` for `{s.id.text}`"⟩ : NodeViolation)
            else none
          (fun found => missing ++ found ++ constraintViolations s value path) <$> members entries
        | _ => report (typeError "object")
      | .union _ =>
        match value with
        | .obj entries =>
          let count := if entries.length != 1 then
              [⟨path, s!"Union value for `{s.id.text}` must contain exactly one member, found {entries.length}"⟩]
            else []
          (fun found => count ++ found ++ constraintViolations s value path) <$> members entries
        | _ => report (typeError "object")
      | .operation _ | .resource _ | .service _ =>
        report s!"{s.type.name} shape `{s.id.text}` cannot be used to describe a node value"

/-- The problems of a value for the shape with an ID, or `none` when the walk
never ends. Between two steps into a smaller value a walk follows at most one
chain of members, and a chain that ends visits each member of the model at
most once; so a walk that has not ended within `(m.size + 1)` steps per node
of the value has gone round a chain of members, and never ends. -/
def checkNode (m : Model) (value : Node) (id : ShapeId) : Option (List NodeViolation) :=
  visitValue m ((m.size + 1) * nodeSize value) value id ""

end ShapeKit
