import ShapeKit.Load.Error
import ShapeKit.Validation.Validator

/-!
# The loader

Loading has two phases. While open, front ends declare shapes, trait
applications and metadata; a reference that cannot be resolved yet is kept
with what it binds. `finish` then resolves every reference, merges trait
values, applies them and builds the shapes into a model with the events
found along the way.

A relative reference resolves, in order, to a shape declared in the current
namespace, to a public prelude shape of the same name (when the prelude is
in), or else to the name in the current namespace, left dangling for the
validators to report.

Repeated declarations combine: metadata and trait values merge (arrays
concatenate, equal values are duplicates, anything else conflicts), and a
shape defined twice must build to equal shapes.
-/

namespace ShapeKit

open Json

/-! ## §1. References and pending shapes -/

/-- A shape reference as written: absolute (or through a `use` alias), or a
relative name expected in the current namespace. -/
inductive ShapeReference where
  | resolved (id : ShapeId)
  | deferred (expected : ShapeId)
deriving DecidableEq, Repr

/-- The ID a reference names if nothing else matches. -/
def ShapeReference.expected : ShapeReference → ShapeId
  | .resolved id => id
  | .deferred e => e

/-- What a resolved reference sets on a shape builder. -/
inductive Binding where
  | target | input | output | error | operation | resource
  | identifier (name : String)
  | lifecycle (which : String)
deriving DecidableEq, Repr

/-- Sets a resolved ID on a builder. -/
def Binding.apply : Binding → Builder → ShapeId → Builder
  | .target, b, t => b.setTarget t
  | .input, b, t => b.setInput t
  | .output, b, t => b.setOutput t
  | .error, b, t => b.addError t
  | .operation, b, t => b.addOperation t
  | .resource, b, t => b.addResource t
  | .identifier n, b, t => b.setIdentifier n t
  | .lifecycle w, b, t => b.setLifecycle w t

/-- Applies resolved references to a builder, in the order they were declared. -/
def resolveAll (resolve : ShapeReference → ShapeId) (b : Builder) (refs : List (ShapeReference × Binding)) :
    Builder :=
  refs.foldl (fun b (r, binding) => binding.apply b (resolve r)) b

/-- A member builder waiting for its target. -/
structure PendingMember where
  builder : Builder
  refs : List (ShapeReference × Binding) := []

/-- A shape builder waiting for its references, with its members, so that
duplicate definitions can be built and compared whole. -/
structure PendingShape where
  builder : Builder
  refs : List (ShapeReference × Binding) := []
  members : List PendingMember := []

namespace PendingShape

/-- The declared ID. -/
def id (p : PendingShape) : Option ShapeId := p.builder.id

/-- Where the shape was declared. -/
def source (p : PendingShape) : SourceLocation := p.builder.source

/-- A built shape in pending form: its builder without members, and one
pending member per member. -/
def ofShape (s : Shape) : PendingShape :=
  let members := s.memberShapes
  let b := members.foldl (fun b m =>
    match m.memberName with
    | some n => b.removeMember n
    | none => b) s.toBuilder
  { builder := b, members := members.map fun m => { builder := m.toBuilder } }

/-- The IDs the shape declares: its own and its members'. -/
def ids (p : PendingShape) : List ShapeId :=
  p.id.toList ++ p.members.filterMap (·.builder.id)

/-- Resolves every reference. -/
def resolve (resolve : ShapeReference → ShapeId) (p : PendingShape) : PendingShape :=
  { builder := resolveAll resolve p.builder p.refs,
    members := p.members.map fun m => { builder := resolveAll resolve m.builder m.refs } }

/-- Builds the members, then the shape. -/
def build (p : PendingShape) : Except ShapeError Shape := do
  let b ← p.members.foldlM (fun b m => do return b.pushMember (← m.builder.build)) p.builder
  b.build

end PendingShape

/-- A trait application waiting for its name to resolve. -/
structure PendingTrait where
  target : ShapeId
  name : ShapeReference
  value : Node
  source : SourceLocation

/-! ## §2. The loader state -/

/-- Everything declared so far, and the events found. Shapes are kept by ID in
ID order, metadata by key in key order. -/
structure Loader where
  factory : TraitFactory := .builtin
  allowUnknownTraits : Bool := false
  includePrelude : Bool := true
  version : Option String := none
  file : String := ""
  currentNamespace : Option String := none
  aliases : List (String × ShapeId) := []
  shapes : List (ShapeId × List PendingShape) := []
  traits : List PendingTrait := []
  metadata : List (String × Node × SourceLocation) := []
  events : List Event := []

/-- An error event of the loader. -/
def modelEvent (message : String) (source : SourceLocation) : Event :=
  { id := "Model", severity := .error, message, source }

/-- Puts a value under a shape ID, keeping ID order. -/
def putById {α : Type} : List (ShapeId × α) → ShapeId → α → List (ShapeId × α)
  | [], k, v => [(k, v)]
  | (k', v') :: rest, k, v =>
    match ShapeId.compare k k' with
    | .lt => (k, v) :: (k', v') :: rest
    | .eq => (k, v) :: rest
    | .gt => (k', v') :: putById rest k v

/-- Puts a value under a text key, keeping key order. -/
def putByKey {α : Type} : List (String × α) → String → α → List (String × α)
  | [], k, v => [(k, v)]
  | (k', v') :: rest, k, v =>
    if k < k' then (k, v) :: (k', v') :: rest
    else if k = k' then (k, v) :: rest
    else (k', v') :: putByKey rest k v

namespace Loader

/-- Starts a new file; the namespace and `use` aliases are per file. -/
def openFile (l : Loader) (name : String) : Loader :=
  { l with file := name, currentNamespace := none, aliases := [] }

/-- Declares the model version of the current file: every file must declare a
compatible version, and one the loader supports. -/
def onVersion (l : Loader) (version : String) : Except LoadError Loader := do
  let found ← versionParts version
  if let some previous := l.version then
    if previous == version then return l
    let known ← versionParts previous
    if found.1 != known.1 || (found.1 == 0 && found.2 != known.2) then
      throw (.conflictingVersion version previous)
  if !(← isVersionSupported version modelVersion) then throw (.incompatibleVersion version)
  return { l with version := some version }

/-- Sets the current namespace. -/
def onNamespace (l : Loader) (ns : String) : Except LoadError Loader :=
  if isNamespace ns then .ok { l with currentNamespace := some ns } else .error (.invalidNamespace ns)

/-- The current namespace. -/
def requireNamespace (l : Loader) : Except LoadError String :=
  match l.currentNamespace with
  | some ns => .ok ns
  | none => .error .missingNamespace

/-- A shape ID error in the current file. -/
def idError (l : Loader) (e : ShapeIdError) : LoadError := .invalidShapeId l.file e

/-- Parses a shape ID in the current file. -/
def parseId (l : Loader) (text : String) : Except LoadError ShapeId :=
  (ShapeId.parse text).mapError l.idError

/-- Imports an absolute ID under its bare name for the current file. -/
def onUse (l : Loader) (id : ShapeId) : Except LoadError Loader :=
  match l.aliases.lookup id.name with
  | some existing =>
    if existing != id then .error (.aliasConflict id.name existing.text)
    else .ok { l with aliases := putByKey l.aliases id.name id }
  | none => .ok { l with aliases := putByKey l.aliases id.name id }

/-- The ID of a shape being defined under a name in the current namespace. -/
def define (l : Loader) (name : String) : Except LoadError ShapeId := do
  if name.toList.contains '#' then return ← l.parseId name
  let ns ← l.requireNamespace
  if let some existing := l.aliases.lookup name then
    throw (.aliasConflict name existing.text)
  (ShapeId.ofRelative ns name).mapError l.idError

/-- Reads a reference: absolute IDs and aliases resolve now, relative names
are deferred until every shape has been declared. -/
def reference (l : Loader) (text : String) : Except LoadError ShapeReference := do
  if text.toList.contains '#' then return .resolved (← l.parseId text)
  let (base, member) := match text.splitToList (· == '$') with
    | b :: rest@(_ :: _) => (b, some ("$".intercalate rest))
    | _ => (text, none)
  if let some imported := l.aliases.lookup base then
    match member with
    | some m => return .resolved (← (imported.withMember m).mapError l.idError)
    | none => return .resolved imported
  let ns ← l.requireNamespace
  return .deferred (← (ShapeId.ofRelative ns text).mapError l.idError)

/-- Records an event. -/
def onError (l : Loader) (e : Event) : Loader := { l with events := l.events ++ [e] }

/-- Declares a shape. A shape without an ID is an error; prelude shapes are
ignored when the prelude is in, and so is a second declaration from the
place of the first. -/
def onShape (l : Loader) (p : PendingShape) : Loader :=
  match p.id with
  | none => l.onError (modelEvent s!"A {p.builder.type.name} shape was defined without an ID" p.source)
  | some id =>
    if l.includePrelude && isPreludeShape id then l
    else
      let entries := (l.shapes.lookup id).getD []
      let sameAsFirst := match entries.head? with
        | some first => !first.source.isNone && first.source == p.source
        | none => false
      if sameAsFirst then l else { l with shapes := putById l.shapes id (entries ++ [p]) }

/-- Declares a built shape; members come with their containers. -/
def onBuiltShape (l : Loader) (s : Shape) : Loader :=
  if s.isMember then l else l.onShape (PendingShape.ofShape s)

/-- Applies a trait value to a shape; the trait's name resolves at the end. -/
def onTrait (l : Loader) (target : ShapeId) (name : ShapeReference) (value : Node) (source : SourceLocation) :
    Loader :=
  { l with traits := l.traits ++ [⟨target, name, value, source⟩] }

/-- Adds a metadata entry, merging with an earlier value under the key. -/
def onMetadata (l : Loader) (key : String) (value : Node) (source : SourceLocation) : Loader :=
  match l.metadata.lookup key with
  | none => { l with metadata := putByKey l.metadata key (value, source) }
  | some (previous, previousSource) =>
    if !source.isNone && previousSource == source then l
    else
      match mergeTraitValues previous value with
      | .merged v => { l with metadata := putByKey l.metadata key (v, previousSource) }
      | .duplicate => l
      | .conflict =>
        l.onError (modelEvent
          s!"Metadata conflict for key `{key}`. Defined in both `{previousSource.text}` and `{source.text}`"
          source)

/-! ## §3. Finishing -/

/-- The IDs of every trait definition this load can see: declared shapes
with the `trait` trait, targets of `trait` applications, and the prelude's. -/
def definitionIds (l : Loader) : List ShapeId :=
  let traitId := ShapeId.prelude "trait"
  let declared := l.shapes.filterMap fun (id, entries) =>
    match entries.head? with
    | some p => if p.builder.traits.contains traitId then some id else none
    | none => none
  let applied := l.traits.filterMap fun p =>
    let isDefinition := match p.name with
      | .resolved id => id == traitId
      | .deferred e => e.name == traitId.name && (l.shapes.lookup e).isNone
    if isDefinition then some p.target else none
  let fromPrelude := if l.includePrelude then prelude.traitDefinitions.map (·.1) else []
  declared ++ applied ++ fromPrelude

/-- The type of the shape with an ID, from its first declaration or the prelude. -/
def definitionType (l : Loader) (id : ShapeId) : Option ShapeType :=
  match (l.shapes.lookup id).bind List.head? with
  | some p => some p.builder.type
  | none => if l.includePrelude then (prelude.get? id).map (·.type) else none

/-- The trait definition a trait name refers to. -/
def resolveTraitName (defs : List ShapeId) : ShapeReference → Option ShapeId
  | .resolved id => if defs.contains id || id == ShapeId.prelude "trait" then some id else none
  | .deferred e =>
    if defs.contains e then some e
    else
      match ShapeId.ofRelative preludeNamespace e.relative with
      | .ok p => if defs.contains p then some p else none
      | .error _ => none

/-- The merged trait values per target and trait, with the place of each first value. -/
abbrev TraitTable := List (ShapeId × List (ShapeId × Node × SourceLocation))

/-- Adds one trait application to the table, or an event when it cannot be
added. -/
def collectTrait (l : Loader) (defs declared : List ShapeId) (acc : List Event × TraitTable)
    (item : PendingTrait) : List Event × TraitTable :=
  let (events, table) := acc
  if !declared.contains item.target then
    (events ++ [modelEvent
      s!"Trait `{item.name.expected.text}` applied to unknown shape `{item.target.text}`" item.source], table)
  else
    match resolveTraitName defs item.name with
    | none =>
      let e := item.name.expected
      let message :=
        s!"Unable to resolve trait `{e.relative}` ({(NodeType.of item.value).name} value defined in the `{e.ns}` namespace). If this is a custom trait, then it must be defined before it can be used in a model."
      (events ++ [{ id := "Model", severity := if l.allowUnknownTraits then .warning else .error, message,
                    shapeId := some item.target, source := item.source }], table)
    | some traitId =>
      let value := coerceTraitValue item.value (l.definitionType traitId)
      let row := (table.lookup item.target).getD []
      match row.lookup traitId with
      | none => (events, putById table item.target (putById row traitId (value, item.source)))
      | some (previous, previousSource) =>
        if !item.source.isNone && previousSource == item.source then (events, table)
        else
          match mergeTraitValues previous value with
          | .merged v =>
            (events, putById table item.target (putById row traitId (v, previousSource)))
          | .duplicate => (events, table)
          | .conflict =>
            (events ++ [{ modelEvent
              s!"Conflicting `{traitId.text}` trait found on shape `{item.target.text}`. The previous trait was defined at `{previousSource.text}`, and a conflicting trait was defined at `{item.source.text}`."
              item.source with shapeId := some item.target }], table)

/-- The result of applying a trait to one builder: the new builder, or the
place of a conflicting value. -/
def mergeInto (b : Builder) (applied : Trait) : Builder × Option SourceLocation :=
  match b.traits.get? applied.id with
  | none => (b.addTrait applied, none)
  | some existing =>
    match mergeTraitValues existing.value applied.value with
    | .merged v => (b.addTrait { id := applied.id, value := v, source := existing.source }, none)
    | .duplicate => (b, none)
    | .conflict => (b, some existing.source)

/-- Applies a finished trait to every declaration of its target, merging with
a value a declaration already carries. A conflict with the first declaration
is an event. -/
def applyTrait (l : Loader) (target : ShapeId) (applied : Trait) : Loader :=
  let container := target.withoutMember
  match l.shapes.lookup container with
  | none => l
  | some entries =>
    let step (entry : PendingShape) : PendingShape × Option SourceLocation :=
      if target.isMember then
        match entry.members.find? (·.builder.id == some target) with
        | none => (entry, none)
        | some m =>
          let (b, conflict) := mergeInto m.builder applied
          let members := (entry.members.foldl (fun (acc : List PendingMember × Bool) x =>
            if !acc.2 && x.builder.id == some target then (acc.1 ++ [{ x with builder := b }], true)
            else (acc.1 ++ [x], acc.2)) ([], false)).1
          ({ entry with members }, conflict)
      else
        let (b, conflict) := mergeInto entry.builder applied
        ({ entry with builder := b }, conflict)
    let results := entries.map step
    let l := { l with shapes := putById l.shapes container (results.map (·.1)) }
    match results.head?.bind (·.2) with
    | some previous =>
      l.onError { modelEvent
        s!"Conflicting `{applied.id.text}` trait found on shape `{target.text}`. The previous trait was defined at `{previous.text}`, and a conflicting trait was defined at `{applied.source.text}`."
        applied.source with shapeId := some target }
    | none => l

/-- Resolves trait names, merges the values per target and applies them. -/
def finalizeTraits (l : Loader) (declared : List ShapeId) : Loader :=
  let defs := l.definitionIds
  let (events, table) := l.traits.foldl (l.collectTrait defs declared) (l.events, [])
  let l := { l with traits := [], events }
  table.foldl (fun l (target, row) =>
    row.foldl (fun l (traitId, value, source) =>
      match l.factory.create traitId value source with
      | .ok t => l.applyTrait target t
      | .error e =>
        l.onError { modelEvent s!"Error creating trait `{traitId.name}`: {e.message}" source with
          shapeId := some target }) l) l

/-- Builds every declared shape. A declaration that fails to build is an
event; a later declaration must build to a shape equal to the first. -/
def buildShapes (l : Loader) : List Shape × List Event :=
  l.shapes.foldl (fun (built, events) (id, entries) =>
    let (kept, events) := entries.foldl (fun (acc : Option Shape × List Event) p =>
      let (kept, events) := acc
      match p.build with
      | .error e => (kept, events ++ [{ modelEvent e.message p.source with shapeId := some id }])
      | .ok s =>
        match kept with
        | none => (some s, events)
        | some first =>
          if first.equal s then (kept, events)
          else (kept, events ++ [{ modelEvent
            s!"Duplicate shape definition for `{id.text}` found at `{first.source.text}` and `{p.source.text}`"
            p.source with shapeId := some id }])) (none, events)
    (built ++ kept.toList, events)) ([], l.events)

/-- Finishes loading: resolves references and traits, builds the shapes and
puts them, the prelude and the metadata into a model. -/
def finish (l : Loader) : ValidatedResult :=
  let declared := l.shapes.flatMap fun (_, entries) => entries.flatMap PendingShape.ids
  let resolve (r : ShapeReference) : ShapeId :=
    match r with
    | .resolved id => id
    | .deferred expected =>
      if declared.contains expected then expected
      else if l.includePrelude then
        match ShapeId.ofRelative preludeNamespace expected.relative with
        | .ok fallback => if isPublicPreludeShape fallback then fallback else expected
        | .error _ => expected
      else expected
  let l := { l with shapes := l.shapes.map fun (id, (entries : List PendingShape)) =>
    (id, entries.map (PendingShape.resolve resolve)) }
  let l := l.finalizeTraits declared
  let (shapes, events) := l.buildShapes
  let base : Model := if l.includePrelude then ({} : Model).addModel prelude else {}
  let m := l.metadata.foldl (fun (m : Model) (k, v, _) => m.putMetadata k v) (base.insertShapes shapes)
  ⟨m, events⟩

end Loader

end ShapeKit
