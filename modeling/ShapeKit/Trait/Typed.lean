import ShapeKit.Shape.Basic
import ShapeKit.Trait.Uri
import ShapeKit.Selector.Parser
import ShapeKit.Regex.Match
import ShapeKit.Decimal.Shortest

/-!
# Typed prelude traits

Some prelude traits have values with a fixed form, and a value of another form
is refused when the trait is applied. This module reads those values:

* `trait`: a trait definition; `true`/`false` or an object with an optional
  `selector`, `structurallyExclusive` (`member` or `target`), `conflicts`
  (trait names, relative to the prelude) and `tags`;
* `documentation`, `httpQuery`, `httpHeader`: strings, the last two non-empty;
* `tags`, `suppress`: lists of strings;
* `deprecated`: an object with optional string `message` and `since`;
* `error`: `client` or `server`;
* `http`: `method`, `uri` (a URI pattern) and an optional status `code`;
* `httpError`: a status code from 200 to 599;
* `length` and `range`: bounds `min`/`max`, at least one, in order;
* `pattern`: a regular expression.

A trait factory knows which trait IDs are typed and checks their values when
a trait is created. Values of other traits pass unchecked.

Trait values written without a value are coerced by the type of the trait's
shape, and values given twice for one shape are merged: lists concatenate,
equal values are a duplicate, anything else conflicts.
-/

namespace ShapeKit

open Json

/-! ## §1. Errors -/

/-- Why a trait value is refused. -/
inductive TraitError where
  | unexpectedType (traitId : ShapeId) (expected : String) (found : NodeType)
  | invalidValue (traitId : ShapeId) (message : String)

namespace TraitError

/-- The message of a refusal. -/
def message : TraitError → String
  | .unexpectedType id e f => s!"Expected {e} value for trait `{id.text}`, found {f.name}"
  | .invalidValue id m => s!"Invalid value for trait `{id.text}`: {m}"

/-- The name of the refusal's kind. -/
def kind : TraitError → String
  | .unexpectedType _ _ _ => "UnexpectedType"
  | .invalidValue _ _ => "InvalidValue"

/-- The trait the refusal is about. -/
def traitId : TraitError → ShapeId
  | .unexpectedType id _ _ | .invalidValue id _ => id

end TraitError

/-! ## §2. Reading values -/

namespace TraitRead

/-- A string, or `unexpectedType`. -/
def string (id : ShapeId) : Node → Except TraitError String
  | .str s => .ok s
  | n => .error (.unexpectedType id "string" (NodeType.of n))

/-- An object, or `unexpectedType`. -/
def object (id : ShapeId) : Node → Except TraitError (List (String × Node))
  | .obj es => .ok es
  | n => .error (.unexpectedType id "object" (NodeType.of n))

/-- An array, or `unexpectedType`. -/
def array (id : ShapeId) : Node → Except TraitError (List Node)
  | .arr xs => .ok xs
  | n => .error (.unexpectedType id "array" (NodeType.of n))

/-- A list of strings. -/
def stringList (id : ShapeId) (n : Node) : Except TraitError (List String) := do
  (← array id n).mapM (string id)

/-- An optional string property of an object. -/
def optString (id : ShapeId) (es : List (String × Node)) (field : String) :
    Except TraitError (Option String) :=
  match Node.lookup field es with
  | some v => (string id v).map some
  | none => .ok none

/-- An optional non-negative integer property: absent or `null` is none. -/
def optNat (id : ShapeId) (v : Option Node) (field : String) : Except TraitError (Option Nat) :=
  match v with
  | none | some .null => .ok none
  | some (.num (.nat n)) => .ok (some n)
  | some _ => .error (.invalidValue id s!"`{field}` must be a non-negative integer")

/-- An optional number property as a double: absent or `null` is none. -/
def optFloat (id : ShapeId) (v : Option Node) (field : String) : Except TraitError (Option Float) :=
  match v with
  | none | some .null => .ok none
  | some (.num n) => .ok (some n.toFloat)
  | some _ => .error (.invalidValue id s!"`{field}` must be a number")

end TraitRead

/-! ## §3. Trait definitions -/

/-- Which shapes a structurally exclusive trait may mark only once per
structure: its members, or the targets of its members. -/
inductive Exclusivity where
  | member | target
deriving DecidableEq, Repr

/-- The name of an exclusivity. -/
def Exclusivity.name : Exclusivity → String
  | .member => "member"
  | .target => "target"

/-- The definition of a trait: where it may be applied, exclusivity, the
traits it conflicts with, and tags. -/
structure TraitDefinition where
  selector : Selector.Parsed := Selector.any
  exclusive : Option Exclusivity := none
  conflicts : List ShapeId := []
  tags : List String := []

/-- Reads a trait definition. -/
def TraitDefinition.ofNode (n : Node) : Except TraitError TraitDefinition := do
  let id := ShapeId.prelude "trait"
  if let .bool _ := n then return {}
  let es ← TraitRead.object id n
  let selector ← match Node.lookup "selector" es with
    | some v => do
      match Selector.parse (← TraitRead.string id v) with
      | .ok s => pure s
      | .error e => throw (TraitError.invalidValue id e.text)
    | none => pure Selector.any
  let exclusive ← match Node.lookup "structurallyExclusive" es with
    | none => pure none
    | some v => do
      let s ← TraitRead.string id v
      if s == "member" then pure (some Exclusivity.member)
      else if s == "target" then pure (some Exclusivity.target)
      else throw (TraitError.invalidValue id
        s!"`structurallyExclusive` must be 'member' or 'target', found '{s}'")
  let conflicts ← match Node.lookup "conflicts" es with
    | none => pure []
    | some v => do
      (← TraitRead.stringList id v).mapM fun name =>
        match ShapeId.ofOptionalNamespace preludeNamespace name with
        | .ok c => pure c
        | .error e => throw (TraitError.invalidValue id e.message)
  let tags ← match Node.lookup "tags" es with
    | none => pure []
    | some v => TraitRead.stringList id v
  return { selector, exclusive, conflicts, tags }

/-- The definition as a JSON object: the selector text, the exclusivity, the
conflicting traits and the tags. -/
def TraitDefinition.toNode (d : TraitDefinition) : Node :=
  .obj [("selector", .str d.selector.expression),
    ("structurallyExclusive", match d.exclusive with
      | some e => .str e.name
      | none => .null),
    ("conflicts", .arr (d.conflicts.map fun c => .str c.text)),
    ("tags", .arr (d.tags.map Node.str))]

/-! ## §4. Other typed traits -/

/-- The `deprecated` trait. -/
structure Deprecation where
  message : Option String
  since : Option String

/-- Reads a `deprecated` value. -/
def Deprecation.ofNode (n : Node) : Except TraitError Deprecation := do
  let id := ShapeId.prelude "deprecated"
  let es ← TraitRead.object id n
  return ⟨← TraitRead.optString id es "message", ← TraitRead.optString id es "since"⟩

/-- The side an error shape blames. -/
inductive ErrorSide where
  | client | server
deriving DecidableEq, Repr

/-- The name of a side. -/
def ErrorSide.name : ErrorSide → String
  | .client => "client"
  | .server => "server"

/-- The HTTP status of an error with no `httpError` trait. -/
def ErrorSide.defaultStatus : ErrorSide → Nat
  | .client => 400
  | .server => 500

/-- Reads an `error` value. -/
def ErrorSide.ofNode (n : Node) : Except TraitError ErrorSide := do
  let id := ShapeId.prelude "error"
  let s ← TraitRead.string id n
  if s == "client" then return .client
  if s == "server" then return .server
  throw (.invalidValue id s!"expected 'client' or 'server', found '{s}'")

/-- The `http` trait: method, URI pattern and success code. -/
structure HttpBinding where
  method : String
  uri : UriPattern
  code : Nat

/-- Reads an `http` value; the code defaults to 200 and must be 100 to 999. -/
def HttpBinding.ofNode (n : Node) : Except TraitError HttpBinding := do
  let id := ShapeId.prelude "http"
  let es ← TraitRead.object id n
  let some m := Node.lookup "method" es | throw (.invalidValue id "missing required property `method`")
  let method ← TraitRead.string id m
  if method.isEmpty then throw (.invalidValue id "`method` must not be empty")
  let some u := Node.lookup "uri" es | throw (.invalidValue id "missing required property `uri`")
  let uri ← match UriPattern.parse (← TraitRead.string id u) with
    | .ok p => pure p
    | .error e => throw (TraitError.invalidValue id e.message)
  let code ← match Node.lookup "code" es with
    | none => pure 200
    | some (.num (.nat c)) =>
      if 100 ≤ c && c ≤ 999 then pure c
      else throw (TraitError.invalidValue id "`code` must be an HTTP status code")
    | some _ => throw (TraitError.invalidValue id "`code` must be an HTTP status code")
  return { method, uri, code }

/-- Reads an `httpError` value: a status code from 200 to 599. -/
def readHttpError (n : Node) : Except TraitError Nat :=
  let id := ShapeId.prelude "httpError"
  match n with
  | .num (.nat c) =>
    if 200 ≤ c && c ≤ 599 then .ok c
    else .error (.invalidValue id "status code must be between 200 and 599")
  | .num _ => .error (.invalidValue id "status code must be between 200 and 599")
  | other => .error (.unexpectedType id "number" (NodeType.of other))

/-- Reads a non-empty name for `httpQuery` or `httpHeader`. -/
def readHttpName (name what : String) (n : Node) : Except TraitError String := do
  let id := ShapeId.prelude name
  let s ← TraitRead.string id n
  if s.isEmpty then throw (.invalidValue id s!"{what} name must not be empty")
  return s

/-- Length bounds. -/
structure LengthBounds where
  min : Option Nat
  max : Option Nat

/-- Reads a `length` value. -/
def LengthBounds.ofNode (n : Node) : Except TraitError LengthBounds := do
  let id := ShapeId.prelude "length"
  let es ← TraitRead.object id n
  let lo ← TraitRead.optNat id (Node.lookup "min" es) "min"
  let hi ← TraitRead.optNat id (Node.lookup "max" es) "max"
  if lo.isNone && hi.isNone then throw (.invalidValue id "one of `min` or `max` is required")
  if let (some a, some b) := (lo, hi) then
    if a > b then throw (.invalidValue id s!"`min` ({a}) is greater than `max` ({b})")
  return ⟨lo, hi⟩

/-- Numeric bounds. -/
structure RangeBounds where
  min : Option Float
  max : Option Float

/-- Reads a `range` value. -/
def RangeBounds.ofNode (n : Node) : Except TraitError RangeBounds := do
  let id := ShapeId.prelude "range"
  let es ← TraitRead.object id n
  let lo ← TraitRead.optFloat id (Node.lookup "min" es) "min"
  let hi ← TraitRead.optFloat id (Node.lookup "max" es) "max"
  if lo.isNone && hi.isNone then throw (.invalidValue id "one of `min` or `max` is required")
  if let (some a, some b) := (lo, hi) then
    if a > b then
      throw (.invalidValue id
        s!"`min` ({Decimal.plainText a}) is greater than `max` ({Decimal.plainText b})")
  return ⟨lo, hi⟩

/-- Reads a `pattern` value. -/
def readPattern (n : Node) : Except TraitError Regex.Pattern := do
  let id := ShapeId.prelude "pattern"
  let s ← TraitRead.string id n
  match Regex.Pattern.compile s with
  | .ok p => return p
  | .error m => throw (.invalidValue id s!"invalid regular expression: {m}")

/-! ## §5. The trait factory -/

/-- The names of the typed prelude traits. -/
def typedTraitNames : List String :=
  ["trait", "documentation", "tags", "suppress", "deprecated", "error", "http", "httpError",
   "httpQuery", "httpHeader", "length", "range", "pattern"]

/-- Checks a value of a typed prelude trait by the trait's name. -/
def checkTypedValue (name : String) (v : Node) : Except TraitError Unit :=
  let id := ShapeId.prelude name
  if name == "trait" then (TraitDefinition.ofNode v).map fun _ => ()
  else if name == "documentation" then (TraitRead.string id v).map fun _ => ()
  else if name == "tags" || name == "suppress" then (TraitRead.stringList id v).map fun _ => ()
  else if name == "deprecated" then (Deprecation.ofNode v).map fun _ => ()
  else if name == "error" then (ErrorSide.ofNode v).map fun _ => ()
  else if name == "http" then (HttpBinding.ofNode v).map fun _ => ()
  else if name == "httpError" then (readHttpError v).map fun _ => ()
  else if name == "httpQuery" then (readHttpName name "query parameter" v).map fun _ => ()
  else if name == "httpHeader" then (readHttpName name "header" v).map fun _ => ()
  else if name == "length" then (LengthBounds.ofNode v).map fun _ => ()
  else if name == "range" then (RangeBounds.ofNode v).map fun _ => ()
  else if name == "pattern" then (readPattern v).map fun _ => ()
  else .ok ()

/-- The trait IDs whose values are checked. -/
structure TraitFactory where
  typed : List ShapeId

namespace TraitFactory

/-- Checks every typed prelude trait. -/
def builtin : TraitFactory := ⟨typedTraitNames.map ShapeId.prelude⟩

/-- Checks nothing. -/
def empty : TraitFactory := ⟨[]⟩

/-- Whether values of a trait are checked. -/
def isTyped (f : TraitFactory) (id : ShapeId) : Bool := f.typed.contains id

/-- Creates a trait, checking its value when the trait is typed. -/
def create (f : TraitFactory) (id : ShapeId) (value : Node) (source : SourceLocation) :
    Except TraitError Trait := do
  if f.isTyped id then checkTypedValue id.name value
  return { id, value, source }

end TraitFactory

/-! ## §6. Coercion and merging -/

/-- The value of a trait written without one, by the type of the trait's shape:
`null` is `true` for booleans, `{}` for structures and maps, `[]` for lists
and sets; `true` is `{}` for structures. -/
def coerceTraitValue (value : Node) (t : Option ShapeType) : Node :=
  match value, t with
  | .null, some .boolean => .bool true
  | .null, some .structure | .null, some .map => .obj []
  | .null, some .list | .null, some .set => .arr []
  | .bool true, some .structure => .obj []
  | v, _ => v

/-- The outcome of giving a trait twice. -/
inductive TraitMerge where
  | merged (value : Node)
  | duplicate
  | conflict

/-- Merges two values of one trait: lists concatenate, equal values are a
duplicate, anything else conflicts. -/
def mergeTraitValues (previous next : Node) : TraitMerge :=
  match previous, next with
  | .arr a, .arr b => .merged (.arr (a ++ b))
  | p, n => if p.equal n then .duplicate else .conflict

end ShapeKit
