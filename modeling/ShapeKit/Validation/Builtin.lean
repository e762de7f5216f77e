import ShapeKit.Validation.Event
import ShapeKit.Validation.NodeCheck
import ShapeKit.Prelude
import ShapeKit.Graph.ShapeGraph
import ShapeKit.Selector.Eval

/-!
# Built-in validators

The checks every model goes through, each named by its event ID:

* `Target`: every relationship of a user shape resolves, and to a shape of a
  fitting type (members target data shapes, map keys strings, operation
  inputs and outputs structures, errors structures with the `error` trait,
  identifiers strings, bindings resources and operations);
* `TraitTarget`: every applied trait matches its definition's selector;
* `TraitValue`: every applied trait is a trait definition and its value fits
  the definition's shape and, for typed traits, their form;
* `TraitConflict`: no shape has two traits that conflict;
* `ExclusiveStructureMemberTrait`: a structurally exclusive trait marks at
  most one member (or member target) of a structure;
* `HttpLabelTrait`: `httpLabel` members and the labels of `http` URIs agree;
* `HttpQueryParamsTrait`: a note when `httpQueryParams` and `httpQuery` meet;
* `ShapeRecursion`: no cycle of required structure members.

The opt-in `ShouldHaveUsedTimestamp` linter flags shapes and members named
like timestamps (by seven patterns and any configured ones) that are not
timestamps. User shapes are those outside the prelude namespace.
-/

namespace ShapeKit

open Json

/-! ## §1. Helpers -/

/-- The shapes outside the prelude namespace, in ID order. -/
def userShapes (m : Model) : List Shape := m.shapes.filter fun s => !s.id.isPrelude

/-- Names in backticks, separated by commas. -/
def ticked (names : List String) : String := ", ".intercalate (names.map fun n => s!"`{n}`")

/-- ASCII lower case. -/
def lowerAscii (s : String) : String := String.ofList (s.toList.map Char.toLower)

/-- An error event about a shape. -/
def shapeEvent (id : String) (sev : Severity) (s : Shape) (message : String) : Event :=
  ({ id, severity := sev, message } : Event).withShape s

/-- Sorts events by shape ID, keeping the order of events on one shape; events
without a shape come first. -/
def sortByShape (es : List Event) : List Event :=
  es.mergeSort fun a b =>
    match a.shapeId, b.shapeId with
    | none, _ => true
    | some _, none => false
    | some x, some y => ShapeId.le x y

/-! ## §2. Targets -/

/-- What is wrong with a resolved relationship's target, if anything. -/
def invalidTarget (m : Model) (s : Shape) (k : RelationshipType) (t : Shape) : Option String :=
  let found := t.type
  let kind := lowerAscii k.name
  let mismatch (expected : String) : Option String :=
    some s!"`{kind}` relationships from {s.type.name} shapes must target {expected}, but `{t.id.text}` is a {found.name} shape"
  match k with
  | .memberTarget =>
    if found == .member || found == .operation || found == .resource || found == .service then
      some s!"Members cannot target {found.name} shapes, found `{t.id.text}`"
    else
      let isMapKey := s.memberName == some "key" &&
        ((s.container.bind m.get?).map (·.type == .map)).getD false
      if isMapKey && found != .string then
        some s!"Map keys must target a string shape, found {found.name} `{t.id.text}`"
      else none
  | .input | .output => if found != .structure then mismatch "a structure" else none
  | .error =>
    if found != .structure || !t.hasPreludeTrait "error" then mismatch "a structure with the `error` trait"
    else none
  | .identifier => if found != .string then mismatch "a string" else none
  | .resource => if found != .resource then mismatch "a resource" else none
  | .operation | .create | .read | .update | .delete | .list =>
    if found != .operation then mismatch "an operation" else none
  | _ => none

/-- `Target`: relationships that do not resolve, or resolve to the wrong type. -/
def checkTargets (m : Model) : List Event :=
  (userShapes m).flatMap fun s =>
    (neighbors m false s).filterMap fun r =>
      if r.shape != s.id then none
      else
        let message :=
          if !r.resolved then
            some s!"{s.type.name} shape has a `{lowerAscii r.kind.name}` relationship to an unresolved shape `{r.neighbor.text}`"
          else (m.get? r.neighbor).bind (invalidTarget m s r.kind)
        message.map (shapeEvent "Target" .error s)

/-! ## §3. Traits -/

/-- `TraitTarget`: traits applied to shapes their definition's selector does not select. -/
def checkTraitTargets (m : Model) : List Event :=
  let events := m.traitDefinitions.flatMap fun (traitId, d) =>
    let applied := m.shapesWithTrait traitId
    if applied.all (·.id.isPrelude) then []
    else
      let matching := d.selector.select m
      applied.filterMap fun s =>
        if s.id.isPrelude || matching.contains s.id then none
        else some (shapeEvent "TraitTarget" .error s
          s!"Trait `{traitId.text}` cannot be applied to `{s.id.text}`. This trait may only be applied to shapes that match the following selector: {d.selector.expression}")
  sortByShape events

/-- `TraitValue`: applied traits that are no trait definitions, or whose values
do not fit; `none` when checking a value never ends. -/
def checkTraitValues (m : Model) : Option (List Event) :=
  List.flatten <$> (userShapes m).mapM fun s =>
    List.flatten <$> s.traits.mapM fun t =>
      let event (message : String) : Event :=
        let e := shapeEvent "TraitValue" .error s message
        if t.source.isNone then e else { e with source := t.source }
      match m.get? t.id with
      | none => some []
      | some d =>
        if !d.hasTrait (ShapeId.prelude "trait") then
          some [event s!"`{t.id.text}` is applied as a trait but is not a trait definition"]
        else
          (checkNode m t.value t.id).map fun violations =>
            let typed :=
              if violations.isEmpty then
                match TraitFactory.builtin.create t.id t.value t.source with
                | .ok _ => []
                | .error e => [event e.message]
              else []
            typed ++ violations.map fun v => event s!"Error validating trait `{t.id.text}`: {v.text}"

/-- `TraitConflict`: pairs of conflicting traits on one shape. -/
def checkTraitConflicts (m : Model) : List Event :=
  let defs := m.traitDefinitions
  (userShapes m).flatMap fun s =>
    let pairs := s.traits.flatMap fun t =>
      match defs.lookup t.id with
      | some d =>
        d.conflicts.filterMap fun other =>
          if s.hasTrait other then
            some (if ShapeId.lt t.id other then (t.id, other) else (other, t.id))
          else none
      | none => []
    let sorted := (pairs.mergeSort fun a b =>
      match ShapeId.compare a.1 b.1 with
      | .lt => true
      | .gt => false
      | .eq => ShapeId.le a.2 b.2).eraseDups
    sorted.map fun (a, b) =>
      shapeEvent "TraitConflict" .error s
        s!"Found conflicting traits on {s.type.name} shape: {ticked [a.name, b.name]}"

/-- `ExclusiveStructureMemberTrait`: structurally exclusive traits found on more
than one member (or member target) of a structure. -/
def checkExclusiveMembers (m : Model) : List Event :=
  let defs := m.traitDefinitions
  ((userShapes m).filter (·.type == .structure)).flatMap fun s =>
    let members := s.memberShapes
    defs.filterMap fun (traitId, d) =>
      match d.exclusive with
      | none => none
      | some ex =>
        let offending := (members.filter fun mem =>
          match ex with
          | .member => mem.hasTrait traitId
          | .target => ((mem.target.bind m.get?).map (·.hasTrait traitId)).getD false).filterMap
            Shape.memberName
        if offending.length < 2 then none
        else
          let message := match ex with
            | .member =>
              s!"The `{traitId.name}` trait can be applied to only a single member of a structure, but it was found on the following members: {ticked offending}"
            | .target =>
              s!"Only a single member of a structure can target a shape marked with the `{traitId.name}` trait, but it was found on the following members: {ticked offending}"
          some (shapeEvent "ExclusiveStructureMemberTrait" .error s message)

/-! ## §4. HTTP bindings -/

/-- `HttpLabelTrait` for one operation with an `http` trait. -/
def checkHttpLabels (m : Model) (op : Shape) (http : HttpBinding) : List Event :=
  let input := ((op.operation?.bind (·.input)).bind m.get?)
  let event (s : Shape) (message : String) := shapeEvent "HttpLabelTrait" .error s message
  let unbound := match input with
    | some i =>
      i.memberShapes.filterMap fun mem =>
        let name := mem.memberName.getD ""
        if mem.hasPreludeTrait "httpLabel" && (http.uri.label? name).isNone then
          some (event mem s!"This `{name}` structure member is marked with the `httpLabel` trait, but no corresponding `http` URI label could be found when used as the input of the `{op.id.text}` operation.")
        else none
    | none => []
  let labels := http.uri.labels.flatMap fun label =>
    match input.bind (·.member? label.name) with
    | some mem =>
      if mem.hasPreludeTrait "httpLabel" then
        let required :=
          if !mem.hasPreludeTrait "required" then
            [event mem s!"This `{label.name}` structure member is bound to the `{label.name}` URI label of the `{op.id.text}` operation and must be marked with the `required` trait."]
          else []
        let greedy :=
          match (mem.target.bind m.get?).map (·.type) with
          | some t =>
            if label.greedy && t != .string then
              [event mem s!"The `{label.name}` structure member corresponds to a greedy label in the `{op.id.text}` operation, so it must target a string shape."]
            else []
          | none => []
        required ++ greedy
      else [event op s!"The `{label.name}` URI label of the `{op.id.text}` operation has no input structure member marked with the `httpLabel` trait."]
    | none => [event op s!"The `{label.name}` URI label of the `{op.id.text}` operation has no input structure member marked with the `httpLabel` trait."]
  unbound ++ labels

/-- `HttpLabelTrait`: every operation with a readable `http` trait. -/
def checkAllHttpLabels (m : Model) : List Event :=
  (m.shapesOfType .operation).flatMap fun op =>
    match op.getTrait (ShapeId.prelude "http") with
    | some t =>
      match HttpBinding.ofNode t.value with
      | .ok http => checkHttpLabels m op http
      | .error _ => []
    | none => []

/-- `HttpQueryParamsTrait`: inputs with both `httpQueryParams` and `httpQuery` members. -/
def checkQueryParams (m : Model) : List Event :=
  let inputs := (m.shapesOfType .operation).filterMap fun op => (op.operation?.bind (·.input)).bind m.get?
  let sorted := (inputs.mergeSort fun a b => ShapeId.le a.id b.id)
  let unique := sorted.foldl (fun (acc : List Shape) s =>
    match acc.getLast? with
    | some l => if l.id == s.id then acc else acc ++ [s]
    | none => [s]) []
  unique.filterMap fun input =>
    let members := input.memberShapes
    match members.find? (·.hasPreludeTrait "httpQueryParams") with
    | none => none
    | some params =>
      let query := (members.filter (·.hasPreludeTrait "httpQuery")).filterMap Shape.memberName
      let paramName := params.memberName.getD ""
      if query.isEmpty then none
      else some (shapeEvent "HttpQueryParamsTrait" .note input
        s!"Operation input `{input.id.text}` has an `httpQueryParams` trait applied to the `{paramName}` member and `httpQuery` traits applied to the following members: {ticked query}. This can cause confusion when keys from the `httpQueryParams` trait conflict with those defined directly by `httpQuery` traits")

/-! ## §5. Recursion -/

/-- `ShapeRecursion`: cycles through required structure members. -/
def checkRecursion (m : Model) : List Event :=
  let keep (s : Shape) (r : Relationship) : Bool :=
    r.kind == .structureMember && s.type == .structure &&
      ((s.memberShapes.find? (·.id == r.neighbor)).map (·.hasPreludeTrait "required")).getD false
  (ShapeGraph.ofModel m keep).cycles.filterMap fun cycle =>
    cycle.head?.map fun first =>
      let names := ticked (cycle.map ShapeId.text)
      let message :=
        s!"Found a recursive reference through required structure members that can never be satisfied between the following shapes: {names}"
      let e : Event := { id := "ShapeRecursion", severity := .error, message }
      match m.get? first with
      | some s => e.withShape s
      | none => { e with shapeId := some first }

/-! ## §6. The timestamp linter -/

/-- The name patterns of timestamps. -/
def defaultTimestampPatterns : List String :=
  ["^.*[Tt]imestamp.*$", "^[Tt]ime([_A-Z].*)?$", "^[Dd]ate([_A-Z].*)?$", "^.*([a-z]T|_[Tt])ime$",
   "^.*([a-z]D|_[Dd])ate$", "^.*([a-z]A|_[Aa])t$", "^.*([a-z]O|_[Oo])n$"]

/-- `ShouldHaveUsedTimestamp`: shapes and members named like timestamps that are not. -/
def checkTimestampNames (patterns : List Regex.Pattern) (m : Model) : List Event :=
  let named (n : String) : Bool := patterns.any (·.matches n)
  (userShapes m).flatMap fun s =>
    match s.type with
    | .string | .short | .integer | .long | .float =>
      if named s.id.name then
        [shapeEvent "ShouldHaveUsedTimestamp" .danger s
          s!"Shape `{s.id.name}` is named like a timestamp but is a `{s.type.name}` shape."]
      else []
    | .structure | .union =>
      s.memberShapes.filterMap fun mem =>
        let name := mem.memberName.getD ""
        match mem.target.bind m.get? with
        | none => none
        | some t =>
          if t.type == .timestamp || t.type == .structure || t.type == .union || !named name then none
          else some (shapeEvent "ShouldHaveUsedTimestamp" .danger mem
            s!"Member `{name}` is named like a timestamp but references a `{t.type.name}` shape")
    | _ => []

/-! ## §7. Validators -/

/-- A validator: one of the built-in checks, or the timestamp linter with its patterns. -/
inductive Validator where
  | target | traitTarget | traitValue | traitConflict | exclusiveMember | httpLabel
  | httpQueryParams | recursion
  | timestampNames (patterns : List Regex.Pattern)

namespace Validator

/-- The name of a validator, which is also the ID of its events. -/
def name : Validator → String
  | .target => "Target"
  | .traitTarget => "TraitTarget"
  | .traitValue => "TraitValue"
  | .traitConflict => "TraitConflict"
  | .exclusiveMember => "ExclusiveStructureMemberTrait"
  | .httpLabel => "HttpLabelTrait"
  | .httpQueryParams => "HttpQueryParamsTrait"
  | .recursion => "ShapeRecursion"
  | .timestampNames _ => "ShouldHaveUsedTimestamp"

/-- Runs a validator on a model; `none` when it never ends, which only the
trait value check can do. -/
def run : Validator → Model → Option (List Event)
  | .target, m => some (checkTargets m)
  | .traitTarget, m => some (checkTraitTargets m)
  | .traitValue, m => checkTraitValues m
  | .traitConflict, m => some (checkTraitConflicts m)
  | .exclusiveMember, m => some (checkExclusiveMembers m)
  | .httpLabel, m => some (checkAllHttpLabels m)
  | .httpQueryParams, m => some (checkQueryParams m)
  | .recursion, m => some (checkRecursion m)
  | .timestampNames ps, m => some (checkTimestampNames ps m)

end Validator

/-- The built-in validators, in the order they run. -/
def builtinValidators : List Validator :=
  [.target, .traitTarget, .traitValue, .traitConflict, .exclusiveMember, .httpLabel,
   .httpQueryParams, .recursion]

/-- The timestamp linter with the default patterns and some more; a pattern
that does not compile gives its message. -/
def timestampLinter (additional : List String) : Except String Validator := do
  let ps ← (defaultTimestampPatterns ++ additional).mapM Regex.Pattern.compile
  return .timestampNames ps

/-- The timestamp linter from its configuration: an optional list of strings
`additionalPatterns`. -/
def timestampFromConfiguration (config : Node) : Except String Validator := do
  let extra ← match config.get? "additionalPatterns" with
    | none | some .null => pure []
    | some (.arr items) =>
      items.mapM fun i =>
        match i with
        | .str s => pure s
        | _ => throw "`additionalPatterns` must contain only strings"
    | some _ => throw "`additionalPatterns` must be a list of strings"
  timestampLinter extra

end ShapeKit
