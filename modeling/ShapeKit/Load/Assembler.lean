import ShapeKit.Load.Document

/-!
# Assembling models

An assembler collects model sources (other models, built shapes, metadata
entries, documents and imports of files or directories) and assembles them:
everything goes through one loader, in that order, and the loaded model is
then validated. Only unreadable files, malformed documents and version
problems stop assembly; everything else is an event.

Reading files is left to the caller: an import is given as the files it
stands for, each with its contents or the error reading it.

The events come out sorted by shape ID (events without a shape first), then
by event ID, keeping the order of events that tie.
-/

namespace ShapeKit

open Json

/-- The files an import stands for, in load order, each with its contents or
the error reading it; or the error finding them. -/
abbrev ImportedFiles := Except LoadError (List (String × Except LoadError String))

/-- A model source: an import of a path, or document text under a name. -/
inductive ModelSource where
  | importPath (path : String)
  | text (name contents : String)
deriving DecidableEq, Repr

/-- What to assemble, and how. -/
structure Assembler where
  sources : List ModelSource := []
  shapes : List Shape := []
  models : List Model := []
  metadata : List (String × Node) := []
  factory : TraitFactory := .builtin
  validator : ModelValidator := {}
  allowUnknownTraits : Bool := false
  validate : Bool := true
  prelude : Bool := true

/-- Orders events by shape ID, those without one first, then by event ID. -/
def eventLe (a b : Event) : Bool :=
  match a.shapeId, b.shapeId with
  | none, some _ => true
  | some _, none => false
  | none, none => decide (a.id ≤ b.id)
  | some x, some y =>
    match ShapeId.compare x y with
    | .lt => true
    | .gt => false
    | .eq => decide (a.id ≤ b.id)

/-- Sorts events by shape ID, then event ID, keeping the order of ties. -/
def sortEvents (es : List Event) : List Event := es.mergeSort eventLe

namespace Assembler

/-- Loads the files of an import in order. -/
def loadFiles (l : Loader) : List (String × Except LoadError String) → Except LoadError Loader
  | [] => .ok l
  | (name, contents) :: rest => do
    let text ← contents
    match l.load name text with
    | (l', none) => loadFiles l' rest
    | (_, some e) => .error e

/-- Loads the sources in order. -/
def loadSources (imports : String → ImportedFiles) (l : Loader) : List ModelSource → Except LoadError Loader
  | [] => .ok l
  | .importPath p :: rest => do
    let files ← imports p
    let l' ← loadFiles l files
    loadSources imports l' rest
  | .text name contents :: rest =>
    match l.load name contents with
    | (l', none) => loadSources imports l' rest
    | (_, some e) => .error e

/-- The loader before any document: the models, shapes and metadata given
directly. -/
def start (a : Assembler) : Loader :=
  let l : Loader := { factory := a.factory, allowUnknownTraits := a.allowUnknownTraits,
                      includePrelude := a.prelude }
  let l := a.models.foldl (fun l m =>
    let l := m.shapes.foldl Loader.onBuiltShape l
    m.metadata.foldl (fun l (k, v) => l.onMetadata k v .none) l) l
  let l := a.shapes.foldl (fun l s => l.onShape (PendingShape.ofShape s)) l
  a.metadata.foldl (fun l (k, v) => l.onMetadata k v .none) l

/-- Loads every source, resolves references and validates the result; `none`
when validating never ends. -/
def assemble (a : Assembler) (imports : String → ImportedFiles) : Except LoadError (Option ValidatedResult) := do
  let l ← loadSources imports a.start a.sources
  let r := l.finish
  let events := if a.validate then (r.events ++ ·) <$> a.validator.validate r.model else some r.events
  return events.map fun events => ⟨r.model, sortEvents events⟩

/-- Assembles without imports. -/
def assembleTexts (a : Assembler) : Except LoadError (Option ValidatedResult) :=
  a.assemble fun p => .error (.io p "No such file or directory (os error 2)")

end Assembler

end ShapeKit
