import ShapeKit.Selector.Parser
import ShapeKit.Graph.Neighbor
import ShapeKit.Json.Writer
import ShapeKit.Decimal.Read

/-!
# Selector evaluation

A selector starts from every shape of the model and applies its steps in
turn; every intermediate result is a set of shape IDs in ID order.

Attribute filters look up a value of a shape: `id` (with `namespace`, `name`,
`member`), `service` (with `version`), or `trait` followed by a trait name
(relative names are prelude traits) and a path into the trait's value. The
path segments `(keys)`, `(values)` and `(length)` project objects, arrays and
strings. Comparisons hold when some string of the value and some candidate
compare; `>`, `>=`, `<`, `<=` compare both as numbers, and `?=` tests
presence against `true` or `false`.

Neighbor steps walk resolved relationships forward or backward; without
labels they follow every relationship that runs with the grain except trait
relationships. `~>` collects everything reachable that way. `:topdown` walks
from services, resources and operations down through resource and operation
bindings, passing qualification down until a disqualifier matches.
-/

namespace ShapeKit.Selector

open Json

/-! ## §1. Attribute values -/

/-- A single attribute value: a text or a node of a trait value. -/
inductive AttrItem where
  | text (s : String)
  | node (n : Node)

/-- The value an attribute path selects: nothing, one value, or the values of a
projection. -/
inductive Attr where
  | missing
  | one (item : AttrItem)
  | many (items : List AttrItem)

namespace Attr

/-- Whether there is a value: a node other than `null`, a text, or a
non-empty projection. -/
def isPresent : Attr → Bool
  | .missing => false
  | .one (.node n) => !n.isNull
  | .one (.text _) => true
  | .many items => !items.isEmpty

/-- The strings of one value: texts, strings, numbers and booleans. -/
def itemStrings : AttrItem → List String
  | .text t => [t]
  | .node (.str s) => [s]
  | .node (.num n) => [n.text]
  | .node (.bool b) => [if b then "true" else "false"]
  | .node _ => []

/-- The strings a value compares by. -/
def strings : Attr → List String
  | .missing => []
  | .one i => itemStrings i
  | .many items => items.flatMap itemStrings

/-- Projects a node by one path segment. -/
def projectNode (n : Node) (seg : String) : Attr :=
  match seg, n with
  | "(keys)", .obj es => .many (es.map fun e => .text e.1)
  | "(values)", .obj es => .many (es.map fun e => .node e.2)
  | "(values)", .arr xs => .many (xs.map .node)
  | "(length)", .obj es => .one (.text (toString es.length))
  | "(length)", .arr xs => .one (.text (toString xs.length))
  | "(length)", .str s => .one (.text (toString s.length))
  | key, .obj es =>
    match Node.lookup key es with
    | some v => .one (.node v)
    | none => .missing
  | idx, .arr xs =>
    match Decimal.readIndex? idx >>= fun i => xs[i]? with
    | some v => .one (.node v)
    | none => .missing
  | _, _ => .missing

/-- Projects one value by a path segment. -/
def projectItem : AttrItem → String → Attr
  | .text t, seg => if seg == "(length)" then .one (.text (toString t.length)) else .missing
  | .node n, seg => projectNode n seg

/-- Projects a value by a path segment; a projection projects each of its
values and flattens the results. -/
def project : Attr → String → Attr
  | .missing, _ => .missing
  | .one i, seg => projectItem i seg
  | .many items, seg =>
    .many (items.flatMap fun i =>
      match projectItem i seg with
      | .missing => []
      | .one v => [v]
      | .many vs => vs)

/-- Projects a value by a whole path. -/
def projectPath (a : Attr) (path : List String) : Attr := path.foldl project a

end Attr

/-- The trait a selector names: an absolute ID, or a prelude trait. -/
def traitNamed? (name : String) : Option ShapeId :=
  (ShapeId.ofOptionalNamespace preludeNamespace name).toOption

/-- The value under `trait|...` of a shape. -/
def resolveTrait (s : Shape) : List String → Attr
  | [] => .many (s.traits.map fun t => .text t.id.text)
  | name :: rest =>
    let first : Attr :=
      if name == "(keys)" then .many (s.traits.map fun t => .text t.id.text)
      else if name == "(values)" then .many (s.traits.map fun t => .node t.value)
      else if name == "(length)" then .one (.text (toString s.traits.length))
      else
        match traitNamed? name >>= s.getTrait with
        | some t => .one (.node t.value)
        | none => .missing
    first.projectPath rest

/-- The value an attribute path selects on a shape. -/
def resolve (s : Shape) : List String → Attr
  | [] => .missing
  | root :: rest =>
    if root == "id" then
      match rest.head? with
      | none => .one (.text s.id.text)
      | some "namespace" => .one (.text s.id.ns)
      | some "name" => .one (.text s.id.name)
      | some "member" =>
        match s.id.member with
        | some m => .one (.text m)
        | none => .missing
      | some _ => .missing
    else if root == "service" then
      match s.service?, rest.head? with
      | some _, none => .one (.text s.id.text)
      | some d, some "version" => .one (.text d.version)
      | _, _ => .missing
    else if root == "trait" then resolveTrait s rest
    else .missing

/-! ## §2. Comparisons -/

/-- Compares two strings, in lower case when asked. -/
def compareStrings (op : Comparator) (lhs rhs : String) (ci : Bool) : Bool :=
  let l := if ci then lhs.toLower else lhs
  let r := if ci then rhs.toLower else rhs
  let numeric (f : Float → Float → Bool) : Bool :=
    match Decimal.readFloat? l, Decimal.readFloat? r with
    | some a, some b => f a b
    | _, _ => false
  match op with
  | .equals => l == r
  | .notEquals => l != r
  | .startsWith => l.startsWith r
  | .endsWith => l.endsWith r
  | .contains => (l.splitOn r).length > 1 || r.isEmpty
  | .greater => numeric fun a b => a > b
  | .greaterOrEqual => numeric fun a b => a >= b
  | .less => numeric fun a b => a < b
  | .lessOrEqual => numeric fun a b => a <= b
  | .isPresent => false

/-- Whether a value compares with some candidate. -/
def compareAttr (v : Attr) (op : Comparator) (candidates : List String) (ci : Bool) : Bool :=
  if op == .isPresent then
    let present := v.isPresent
    candidates.any fun c => (c == "true" && present) || (c == "false" && !present)
  else
    v.strings.any fun l => candidates.any fun r => compareStrings op l r ci

/-- Whether a shape passes `[path]` or `[path op values]`. -/
def matchesAttribute (s : Shape) (path : List String) (cmp : Option Comparison) : Bool :=
  let v := resolve s path
  match cmp with
  | none => v.isPresent
  | some c => compareAttr v c.comparator c.values c.caseInsensitive

/-- Whether every assertion holds, with context paths looked up by `lookup`. -/
def assertionsHold (lookup : List String → Attr) (assertions : List ScopedAssertion) : Bool :=
  let eval : ScopedValue → Attr
    | .literal t => .one (.text t)
    | .context p => lookup p
  assertions.all fun a =>
    compareAttr (eval a.lhs) a.comparator (a.rhs.flatMap fun v => (eval v).strings) a.caseInsensitive

/-- Whether a shape passes a scoped attribute filter: for an empty scope the
paths are the shape's own, otherwise some value of the scope must satisfy
every assertion. -/
def matchesScoped (s : Shape) (scope : List String) (assertions : List ScopedAssertion) : Bool :=
  if scope.isEmpty then assertionsHold (resolve s) assertions
  else
    let scopes : List Attr := match resolve s scope with
      | .missing => []
      | .many items => items.map .one
      | v => [v]
    scopes.any fun sc => assertionsHold sc.projectPath assertions

/-! ## §3. Walking the model -/

/-- The model and its relationships. -/
structure Context where
  model : Model
  index : NeighborIndex

/-- Sorts IDs and drops repeats. -/
def sortIds (ids : List ShapeId) : List ShapeId := (ShapeId.sort ids).eraseDups

/-- Whether a relationship kind passes a neighbor step's labels. -/
def acceptsKind (labels : List String) (k : RelationshipType) : Bool :=
  if labels.isEmpty then !k.isInverted && k != .trait
  else (k.label.map labels.contains).getD false

/-- The neighbors of a shape along accepted relationships. -/
def Context.step (c : Context) (dir : Direction) (labels : List String) (id : ShapeId) :
    List ShapeId :=
  match dir with
  | .forward =>
    (c.index.outgoing id).filterMap fun r =>
      if acceptsKind labels r.kind && r.resolved then some r.neighbor else none
  | .reverse =>
    (c.index.incoming id).filterMap fun r => if acceptsKind labels r.kind then some r.shape else none

/-- Everything reachable from a shape by one plain relationship or more. -/
def Context.closure (c : Context) (root : ShapeId) : List ShapeId :=
  let rec grow : Nat → List ShapeId → List ShapeId → List ShapeId
    | 0, seen, _ => seen
    | fuel + 1, seen, frontier =>
      let next := (frontier.flatMap (c.step .forward [])).eraseDups.filter fun x => !seen.contains x
      if next.isEmpty then seen else grow fuel (seen ++ next) next
  sortIds (grow (c.model.size + 1) [] [root])

/-- Keeps the IDs of shapes that pass a test. -/
def Context.keep (c : Context) (input : List ShapeId) (p : Shape → Bool) : List ShapeId :=
  input.filter fun id =>
    match c.model.get? id with
    | some s => p s
    | none => false

/-- The top-down walk from one shape: marks it when qualified (inherited or by
the qualifier) and not disqualified, then visits the resources and operations
it binds. The state is the visited and the marked shapes. -/
def Context.topDown (c : Context) (qual disq : ShapeId → Bool) :
    Nat → ShapeId → Bool → List ShapeId × List ShapeId → List ShapeId × List ShapeId
  | 0, _, _, st => st
  | fuel + 1, id, inherited, (visited, out) =>
    if visited.contains id then (visited, out)
    else
      let q0 := inherited || qual id
      let q := q0 && !disq id
      let out := if q then out ++ [id] else out
      let children := (c.index.outgoing id).filterMap fun r =>
        if (r.kind == .resource || r.kind == .operation) && r.resolved && r.neighbor != id then
          some r.neighbor
        else none
      children.foldl (fun st ch => c.topDown qual disq fuel ch q st) (visited ++ [id], out)

mutual
/-- Applies steps in turn. -/
def Context.evalSteps (c : Context) : List Step → List ShapeId → List ShapeId
  | [], input => input
  | s :: rest, input => c.evalSteps rest (c.apply s input)

/-- Applies one step. -/
def Context.apply (c : Context) : Step → List ShapeId → List ShapeId
  | .type f, input => c.keep input fun s => f.accepts s.type
  | .attribute path cmp, input => c.keep input fun s => matchesAttribute s path cmp
  | .scoped scope assertions, input => c.keep input fun s => matchesScoped s scope assertions
  | .neighbor dir labels, input => sortIds (input.flatMap (c.step dir labels))
  | .recursive, input => sortIds (input.flatMap c.closure)
  | .is alts, input => sortIds (c.evalAlternatives alts input)
  | .not inner, input => input.filter fun id => (c.evalSteps inner [id]).isEmpty
  | .test alts, input => input.filter fun id => c.anyYields alts id
  | .topDown q d, input =>
    let roots := c.keep input fun s => s.type == .service || s.type == .resource || s.type == .operation
    let qual := fun id => !(c.evalSteps q [id]).isEmpty
    let disq := fun id =>
      match d with
      | some steps => !(c.evalSteps steps [id]).isEmpty
      | none => false
    sortIds (roots.foldl (fun out r => (c.topDown qual disq (c.model.size + 1) r false ([], out)).2) [])

/-- The shapes every alternative yields, together. -/
def Context.evalAlternatives (c : Context) : List (List Step) → List ShapeId → List ShapeId
  | [], _ => []
  | a :: rest, input => c.evalSteps a input ++ c.evalAlternatives rest input

/-- Whether some alternative yields something from one shape. -/
def Context.anyYields (c : Context) : List (List Step) → ShapeId → Bool
  | [], _ => false
  | a :: rest, id => !(c.evalSteps a [id]).isEmpty || c.anyYields rest id
end

/-- The IDs of the shapes a selector selects, in ID order. -/
def Parsed.select (sel : Parsed) (m : Model) : List ShapeId :=
  let c : Context := ⟨m, NeighborIndex.build m sel.usesTraits⟩
  c.evalSteps sel.steps (m.shapes.map (·.id))

end ShapeKit.Selector
