import ShapeKit.Validation.Event
import ShapeKit.Json.Writer

/-!
# Suppressions

A suppression, written in the `suppressions` metadata of a model, demotes the
events with one event ID to `SUPPRESSED`: in the whole model (`"namespace":
"*"`), in one namespace, or on one shape and its members. It may give a reason.

An entry is an object with a string `id` and exactly one of a string
`namespace` or a string `shape`; an optional string `reason` is kept.
-/

namespace ShapeKit

open Json

/-- Where a suppression applies. -/
inductive SuppressionScope where
  | model
  | ns (name : String)
  | shape (id : ShapeId)
deriving DecidableEq, Repr

/-- A suppression: the event ID it demotes, where, and why. -/
structure Suppression where
  eventId : String
  scope : SuppressionScope
  reason : Option String
deriving DecidableEq, Repr

/-- Why a metadata entry is no suppression. -/
inductive SuppressionError where
  | notAnObject (text : String)
  | missingId
  | invalidScope (id : String)
  | invalidShape (id : String) (e : ShapeIdError)

namespace SuppressionError

/-- The message of a suppression error. -/
def message : SuppressionError → String
  | .notAnObject t => s!"Suppression must be an object, found {t}"
  | .missingId => "Suppression is missing a string `id`"
  | .invalidScope id => s!"Suppression `{id}` must define exactly one of `namespace` or `shape`"
  | .invalidShape id e => s!"Suppression `{id}` has an invalid shape: {e.message}"

/-- The name of the error's kind. -/
def kind : SuppressionError → String
  | .notAnObject _ => "NotAnObject"
  | .missingId => "MissingId"
  | .invalidScope _ => "InvalidScope"
  | .invalidShape _ _ => "InvalidShape"

end SuppressionError

namespace Suppression

/-- Reads a suppression entry. -/
def ofNode (n : Node) : Except SuppressionError Suppression := do
  let .obj es := n | throw (.notAnObject n.compact)
  let some id := (Node.lookup "id" es).bind Node.asStr? | throw .missingId
  let ns := (Node.lookup "namespace" es).bind Node.asStr?
  let shape := (Node.lookup "shape" es).bind Node.asStr?
  let scope ← match ns, shape with
    | some "*", none => pure SuppressionScope.model
    | some name, none => pure (SuppressionScope.ns name)
    | none, some text =>
      match ShapeId.parse text with
      | .ok sid => pure (SuppressionScope.shape sid)
      | .error e => throw (SuppressionError.invalidShape id e)
    | _, _ => throw (SuppressionError.invalidScope id)
  return ⟨id, scope, (Node.lookup "reason" es).bind Node.asStr?⟩

/-- Whether a suppression applies to an event: the IDs agree and the event's
shape lies in the scope (an event without a shape only in the model scope). -/
def appliesTo (s : Suppression) (e : Event) : Bool :=
  e.id == s.eventId &&
    match s.scope, e.shapeId with
    | .model, _ => true
    | .ns name, some id => id.ns == name
    | .shape sid, some id => id.withoutMember == sid || id == sid
    | _, none => false

end Suppression

end ShapeKit
