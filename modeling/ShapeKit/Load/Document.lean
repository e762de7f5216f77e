import ShapeKit.Load.Loader
import ShapeKit.Json.Reader
import ShapeKit.Text.Blank

/-!
# JSON model documents

A model document is a JSON object:

* `smithy`: the model version, a string (`1.0` when absent);
* `use`: absolute shape IDs imported under their bare names;
* `metadata`: an object of metadata entries;
* `shapes`: an object from absolute shape IDs to shape definitions, each an
  object with a `type` and the properties of that type. Members are objects
  with a `target`; operations, resources and services refer to shapes through
  objects with a `target` too. A definition of type `apply` only adds traits
  to a shape defined elsewhere.

Every shape, member and metadata entry gets the place of its key in the text:
the first `"key"` followed (after blanks) by `:`, searched from the start for
shape and metadata keys and from the container's key for member names.

Loading stops at the first malformed part; what was declared before it stays
declared.
-/

namespace ShapeKit

open Json

/-! ## §1. Places of keys -/

/-- Finds the places of keys in a document's text. -/
structure Locator where
  filename : String
  text : Array Char

namespace Locator

/-- Whether a needle occurs at an index. -/
def occursAt (text : Array Char) (needle : List Char) (i : Nat) : Bool :=
  needle.zipIdx.all fun (c, k) => text[i + k]? == some c

/-- Whether the first non-blank character from an index is `:`. -/
def colonFollows (text : Array Char) : Nat → Nat → Bool
  | 0, _ => false
  | fuel + 1, i =>
    match text[i]? with
    | some c => if c == ':' then true else if Text.isBlank c then colonFollows text fuel (i + 1) else false
    | none => false

/-- The line and column of an index: lines count from 1, columns count the
characters since the last line feed, from 1. -/
def location (loc : Locator) (offset : Nat) : SourceLocation :=
  let before := (loc.text.toList.take offset)
  let line := before.count '\n' + 1
  let column := (before.reverse.takeWhile (· != '\n')).length + 1
  ⟨loc.filename, line, column⟩

/-- The place and index of the first `"key":` at or after an index; the place
`(filename, 0, 0)` and the index itself when there is none. -/
def key (loc : Locator) (k : String) (start : Nat) : SourceLocation × Nat :=
  let needle := '"' :: k.toList ++ ['"']
  let n := loc.text.size
  let found := (List.range (n + 1 - min start n)).find? fun j =>
    let i := min start n + j
    occursAt loc.text needle i && colonFollows loc.text (n + 1) (i + needle.length)
  match found with
  | some j => (loc.location (min start n + j), min start n + j)
  | none => (⟨loc.filename, 0, 0⟩, start)

end Locator

/-! ## §2. Reading documents -/

/-- Loading steps: they change the loader and may fail, keeping the changes
made before the failure. -/
abbrev LoadM := ExceptT LoadError (StateM Loader)

/-- Fails with a malformed document message. -/
def malformed {α : Type} (message : String) : LoadM α := do
  throw (.invalidAst (← get).file message)

/-- Runs a loader step that may fail. -/
def step (f : Loader → Except LoadError Loader) : LoadM Unit := do
  match f (← get) with
  | .ok l => set l
  | .error e => throw e

/-- Asks the loader something that may fail. -/
def ask {α : Type} (f : Loader → Except LoadError α) : LoadM α := do
  match f (← get) with
  | .ok a => pure a
  | .error e => throw e

/-- The entries of an object, or a malformed document. -/
def objectOf (n : Node) (what : String) : LoadM (List (String × Node)) :=
  match n with
  | .obj es => pure es
  | _ => malformed s!"{what} must be an object"

/-- The items of an array, or a malformed document. -/
def arrayOf (n : Node) (what : String) : LoadM (List Node) :=
  match n with
  | .arr xs => pure xs
  | _ => malformed s!"{what} must be an array"

/-- The reference of an object with a `target` string. -/
def targetOf (n : Node) : LoadM ShapeReference :=
  match (n.get? "target").bind Node.asStr? with
  | some text => ask (·.reference text)
  | none => malformed s!"Expected an object with a `target` string, found {n.compact}"

/-- The references of an optional array of target objects. -/
def targetsOf (n : Option Node) (what : String) : LoadM (List ShapeReference) :=
  match n with
  | none => pure []
  | some n => do (← arrayOf n what).mapM targetOf

/-- Applies the traits of an optional `traits` object to a shape. -/
def applyTraits (target : ShapeId) (traits : Option Node) (source : SourceLocation) : LoadM Unit := do
  let some traits := traits | pure ()
  for (name, value) in ← objectOf traits "`traits`" do
    let r ← ask (·.reference name)
    modify (·.onTrait target r value source)

/-- Reads a member definition of a container whose key is at an index. -/
def loadMember (loc : Locator) (container : ShapeId) (name : String) (definition : Node)
    (containerOffset : Nat) : LoadM PendingMember := do
  let id ← ask fun l => (container.withMember name).mapError l.idError
  let es ← objectOf definition s!"Member `{id.text}`"
  let (source, _) := loc.key name containerOffset
  let r ← targetOf definition
  applyTraits id (Node.lookup "traits" es) source
  return { builder := (Builder.new .member).setId id |>.setSource source, refs := [(r, .target)] }

/-- The lifecycle properties of a resource, in order. -/
def lifecycleNames : List String := ["create", "read", "update", "delete", "list"]

/-- The references of a shape definition's properties, by type. -/
def shapeRefs (t : ShapeType) (es : List (String × Node)) : LoadM (List (ShapeReference × Binding)) := do
  match t with
  | .operation =>
    let input ← match Node.lookup "input" es with
      | some n => pure [((← targetOf n), Binding.input)]
      | none => pure []
    let output ← match Node.lookup "output" es with
      | some n => pure [((← targetOf n), Binding.output)]
      | none => pure []
    let errors ← targetsOf (Node.lookup "errors" es) "`errors`"
    return input ++ output ++ errors.map (·, .error)
  | .resource =>
    let ids ← match Node.lookup "identifiers" es with
      | some n => do
        (← objectOf n "`identifiers`").mapM fun (name, v) => do
          return ((← targetOf v), Binding.identifier name)
      | none => pure []
    let lifecycle ← lifecycleNames.filterMapM fun name =>
      match Node.lookup name es with
      | some n => do return some ((← targetOf n), Binding.lifecycle name)
      | none => pure none
    let ops ← targetsOf (Node.lookup "operations" es) "`operations`"
    let resources ← targetsOf (Node.lookup "resources" es) "`resources`"
    return ids ++ lifecycle ++ ops.map (·, .operation) ++ resources.map (·, .resource)
  | .service =>
    let ops ← targetsOf (Node.lookup "operations" es) "`operations`"
    let resources ← targetsOf (Node.lookup "resources" es) "`resources`"
    return ops.map (·, .operation) ++ resources.map (·, .resource)
  | _ => return []

/-- Reads a required member of a definition. -/
def requiredMember (es : List (String × Node)) (name what : String) : LoadM Node :=
  match Node.lookup name es with
  | some n => pure n
  | none => malformed s!"{what} is missing `{name}`"

/-- Reads the members of a shape definition, by type. -/
def shapeMembers (loc : Locator) (id : ShapeId) (t : ShapeType) (es : List (String × Node)) (what : String)
    (offset : Nat) : LoadM (List PendingMember) := do
  match t with
  | .list | .set => return [← loadMember loc id "member" (← requiredMember es "member" what) offset]
  | .map =>
    let k ← loadMember loc id "key" (← requiredMember es "key" what) offset
    let v ← loadMember loc id "value" (← requiredMember es "value" what) offset
    return [k, v]
  | .structure | .union =>
    match Node.lookup "members" es with
    | some n => (← objectOf n "`members`").mapM fun (name, d) => loadMember loc id name d offset
    | none => return []
  | _ => return []

/-- Reads one entry of `shapes`. -/
def loadShape (loc : Locator) (key : String) (definition : Node) : LoadM Unit := do
  let id ← ask (·.parseId key)
  if id.isMember then malformed s!"Shape keys cannot be member IDs: `{id.text}`"
  step (·.onNamespace id.ns)
  let what := s!"Shape `{id.text}`"
  let es ← objectOf definition what
  let (source, offset) := loc.key key 0
  let some typeName := (Node.lookup "type" es).bind Node.asStr?
    | malformed s!"{what} is missing a `type`"
  if typeName == "apply" then
    applyTraits id (Node.lookup "traits" es) source
    return
  let t ← match ShapeType.parse typeName with
    | .ok t => pure t
    | .error e => malformed s!"{what}: {e}"
  if t == .member then malformed s!"{what} cannot be a member"
  let mut b := (Builder.new t).setId id |>.setSource source
  if t == .service then
    if let some v := Node.lookup "version" es then
      match v with
      | .str version => b := b.setVersion version
      | _ => malformed s!"{what}: `version` must be a string"
  let members ← shapeMembers loc id t es what offset
  let refs ← shapeRefs t es
  applyTraits id (Node.lookup "traits" es) source
  modify (·.onShape { builder := b, refs, members })

/-- Loads one document into the loader. -/
def loadDocument (filename contents : String) : LoadM Unit := do
  let root ← match read contents with
    | .ok n => pure n
    | .error e => throw (.json filename e)
  modify (·.openFile filename)
  let es ← objectOf root "The model"
  let loc : Locator := ⟨filename, contents.toList.toArray⟩
  match Node.lookup "smithy" es with
  | some (.str v) => step (·.onVersion v)
  | some _ => malformed "`smithy` must be a string"
  | none => step (·.onVersion modelVersion)
  if let some uses := Node.lookup "use" es then
    for item in ← arrayOf uses "`use`" do
      let some text := item.asStr? | malformed "`use` entries must be shape ID strings"
      let id ← ask (·.parseId text)
      step (·.onUse id)
  if let some metadata := Node.lookup "metadata" es then
    for (k, v) in ← objectOf metadata "`metadata`" do
      let (source, _) := loc.key k 0
      modify (·.onMetadata k v source)
  if let some shapes := Node.lookup "shapes" es then
    for (k, d) in ← objectOf shapes "`shapes`" do
      loadShape loc k d

/-- Loads one document, giving the loader as far as it got and the error that
stopped it, if any. -/
def Loader.load (l : Loader) (filename contents : String) : Loader × Option LoadError :=
  match (loadDocument filename contents).run.run l with
  | (.ok (), l') => (l', none)
  | (.error e, l') => (l', some e)

end ShapeKit
