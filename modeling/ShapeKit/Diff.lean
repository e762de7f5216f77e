import ShapeKit.Validation.Validator

/-!
# Comparing models

Two versions of a model are compared shape by shape, by ID, and every
difference becomes an event: removed shapes and changed shape types are
errors, added shapes notes. Members are reported through their containers
when the container itself comes or goes.

Trait changes are graded by the `diff.error.*` tags of the trait's definition
in the new model: `diff.error.add`, `diff.error.remove` and
`diff.error.update` make that change an error, and `diff.error.const` makes
every change one. Without a tag, an added trait is a note and a removed or
changed one a warning. Prelude shapes are never reported.

The events are ordered by shape ID, keeping the order of events on one shape.
-/

namespace ShapeKit

open Json

/-- How a trait changed. -/
inductive TraitChange where
  | add | remove | update
deriving DecidableEq, Repr

namespace TraitChange

/-- The tag that makes the change an error. -/
def tag : TraitChange → String
  | .add => "diff.error.add"
  | .remove => "diff.error.remove"
  | .update => "diff.error.update"

/-- The severity of the change without a tag. -/
def defaultSeverity : TraitChange → Severity
  | .add => .note
  | .remove | .update => .warning

/-- The event ID of the change. -/
def eventId : TraitChange → String
  | .add => "AddedTrait"
  | .remove => "RemovedTrait"
  | .update => "ModifiedTrait"

end TraitChange

/-- The severity of a trait change, by the tags of the trait's definition. -/
def changeSeverity (m : Model) (traitId : ShapeId) (c : TraitChange) : Severity :=
  let tags := ((m.traitDefinition? traitId).map (·.tags)).getD []
  if tags.any fun t => t == c.tag || t == "diff.error.const" then .error else c.defaultSeverity

/-- The event of a trait change on a shape. -/
def traitChangeEvent (m : Model) (s : Shape) (traitId : ShapeId) (c : TraitChange) (message : String) : Event :=
  ({ id := c.eventId, severity := changeSeverity m traitId c, message } : Event).withShape s

/-- The trait changes between two versions of a shape: removed and changed
traits in the old version's order, then added ones. -/
def compareTraits (m : Model) (old new : Shape) : List Event :=
  let changed := old.traits.filterMap fun t =>
    match new.getTrait t.id with
    | none => some (traitChangeEvent m new t.id .remove s!"Removed trait `{t.id.text}` from `{new.id.text}`")
    | some nt =>
      if nt.value.equal t.value then none
      else some (traitChangeEvent m new t.id .update
        s!"Changed trait `{t.id.text}` on `{new.id.text}` from `{t.value.compact}` to `{nt.value.compact}`")
  let added := new.traits.filterMap fun t =>
    if old.hasTrait t.id then none
    else some (traitChangeEvent m new t.id .add s!"Added trait `{t.id.text}` to `{new.id.text}`")
  changed ++ added

/-- The differences between two models, as events ordered by shape ID. -/
def compareModels (old new : Model) : List Event :=
  let fromOld := (old.shapes.filter fun s => !s.id.isPrelude).flatMap fun s =>
    match new.get? s.id with
    | none =>
      if !s.isMember || new.contains s.id.withoutMember then
        [{ id := "RemovedShape", severity := .error, message := s!"Removed {s.type.name} `{s.id.text}`",
           shapeId := some s.id, source := s.source }]
      else []
    | some ns =>
      if ns.type != s.type then
        [({ id := "ChangedShapeType", severity := .error,
            message := s!"Shape `{s.id.text}` type changed from {s.type.name} to {ns.type.name}" } : Event).withShape ns]
      else compareTraits new s ns
  let fromNew := (new.shapes.filter fun s => !s.id.isPrelude).filterMap fun s =>
    if old.contains s.id then none
    else if s.isMember && !old.contains s.id.withoutMember then none
    else some (({ id := "AddedShape", severity := .note,
                  message := s!"Added {s.type.name} `{s.id.text}`" } : Event).withShape s)
  sortByShape (fromOld ++ fromNew)

end ShapeKit
