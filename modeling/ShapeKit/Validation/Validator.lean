import ShapeKit.Validation.Builtin
import ShapeKit.Validation.Suppression

/-!
# Validating a model

A registry holds the validators that always run and, by name, the factories
of opt-in validators that take a configuration. A model validator runs them
all over a model: the registry's validators, then those enabled by hand, then
those the model's `validators` metadata lists, skipping disabled names. It
then applies suppressions: those of the `suppressions` metadata, first match
wins and gives its reason, and the `suppress` trait of an event's shape or its
container, with no reason. Malformed metadata becomes `ValidationMetadata`
error events, unknown validators in it `UnknownValidator` events.
-/

namespace ShapeKit

open Json

/-- Why an opt-in validator cannot be made. -/
inductive ValidatorError where
  | unknownValidator (name : String)
  | invalidConfiguration (name message : String)
deriving DecidableEq, Repr

namespace ValidatorError

/-- The message of a validator error. -/
def message : ValidatorError → String
  | .unknownValidator n => s!"Unknown validator `{n}`"
  | .invalidConfiguration n msg => s!"Invalid configuration for validator `{n}`: {msg}"

/-- The name of the error's kind. -/
def kind : ValidatorError → String
  | .unknownValidator _ => "UnknownValidator"
  | .invalidConfiguration _ _ => "InvalidConfiguration"

end ValidatorError

/-- The opt-in validators that can be made from a configuration. -/
inductive ValidatorFactory where
  | timestampNames
deriving DecidableEq, Repr

/-- The name under which a factory is registered. -/
def ValidatorFactory.name : ValidatorFactory → String
  | .timestampNames => "ShouldHaveUsedTimestamp"

/-- Makes the validator of a factory from its configuration. -/
def ValidatorFactory.make : ValidatorFactory → Node → Except String Validator
  | .timestampNames, config => timestampFromConfiguration config

/-- Validators that always run, and factories of opt-in ones. -/
structure ValidatorRegistry where
  validators : List Validator
  factories : List ValidatorFactory

namespace ValidatorRegistry

/-- No validators and no factories. -/
def empty : ValidatorRegistry := ⟨[], []⟩

/-- The built-in validators and the timestamp linter's factory. -/
def builtin : ValidatorRegistry := ⟨builtinValidators, [.timestampNames]⟩

/-- The names of the factories, sorted. -/
def factoryNames (r : ValidatorRegistry) : List String :=
  (r.factories.map ValidatorFactory.name).mergeSort (fun a b => decide (a ≤ b))

/-- Makes an opt-in validator by name. -/
def create (r : ValidatorRegistry) (name : String) (config : Node) : Except ValidatorError Validator :=
  match r.factories.find? (·.name == name) with
  | none => .error (.unknownValidator name)
  | some f =>
    match f.make config with
    | .ok v => .ok v
    | .error msg => .error (.invalidConfiguration name msg)

end ValidatorRegistry

/-- A model validator: a registry, disabled names and validators enabled by hand. -/
structure ModelValidator where
  registry : ValidatorRegistry := .builtin
  disabled : List String := []
  extra : List Validator := []

/-- The event of malformed validation metadata. -/
def metadataEvent (message : String) : Event :=
  { id := "ValidationMetadata", severity := .error, message }

/-- The `suppress` trait of a shape, if it reads as a list of strings. -/
def suppressedIds (s : Shape) : Option (List String) :=
  (s.getTrait (ShapeId.prelude "suppress")).bind fun t =>
    match TraitRead.stringList t.id t.value with
    | .ok ids => some ids
    | .error _ => none

/-- Demotes an event if a suppression or the `suppress` trait of its shape
(or the shape's container) covers it. -/
def applySuppressions (m : Model) (suppressions : List Suppression) (e : Event) : Event :=
  if e.severity == .suppressed then e
  else
    match suppressions.find? (·.appliesTo e) with
    | some s => e.suppress s.reason
    | none =>
      let byTrait : Bool := match e.shapeId with
        | some id =>
          let candidates := if id.isMember then [id, id.withoutMember] else [id]
          candidates.any fun c =>
            match m.get? c with
            | some s => ((suppressedIds s).map (·.contains e.id)).getD false
            | none => false
        | none => false
      if byTrait then e.suppress none else e

namespace ModelValidator

/-- Skips the validator with a name. -/
def disable (v : ModelValidator) (name : String) : ModelValidator :=
  { v with disabled := v.disabled ++ [name] }

/-- Enables an opt-in validator of the registry. -/
def enable (v : ModelValidator) (name : String) (config : Node) : Except ValidatorError ModelValidator := do
  let made ← v.registry.create name config
  return { v with extra := v.extra ++ [made] }

/-- The validators the `validators` metadata asks for, with events for the
entries that fail. -/
def metadataValidators (v : ModelValidator) (m : Model) : List Validator × List Event :=
  match m.metadataProperty "validators" with
  | none => ([], [])
  | some (.arr entries) =>
    entries.foldl (fun (vs, es) entry =>
      match (entry.get? "name").bind Node.asStr? with
      | none => (vs, es ++ [metadataEvent s!"Validator definition is missing a `name`: {entry.compact}"])
      | some name =>
        match v.registry.create name ((entry.get? "configuration").getD .null) with
        | .ok made => (vs ++ [made], es)
        | .error e@(.unknownValidator _) =>
          (vs, es ++ [{ id := "UnknownValidator", severity := .error, message := e.message }])
        | .error e => (vs, es ++ [metadataEvent e.message])) ([], [])
  | some _ => ([], [metadataEvent "The `validators` metadata property must be an array"])

/-- The suppressions of the `suppressions` metadata, with events for the
entries that fail. -/
def metadataSuppressions (m : Model) : List Suppression × List Event :=
  match m.metadataProperty "suppressions" with
  | none => ([], [])
  | some (.arr entries) =>
    entries.foldl (fun (ss, es) entry =>
      match Suppression.ofNode entry with
      | .ok s => (ss ++ [s], es)
      | .error e => (ss, es ++ [metadataEvent e.message])) ([], [])
  | some _ => ([], [metadataEvent "The `suppressions` metadata property must be an array"])

/-- Validates a model: the events of every validator that runs, suppressed
where suppressions say so; `none` when a validator never ends. -/
def validate (v : ModelValidator) (m : Model) : Option (List Event) := do
  let (configured, metaEvents) := v.metadataValidators m
  let running := (v.registry.validators ++ v.extra ++ configured).filter fun x =>
    !v.disabled.contains x.name
  let found := metaEvents ++ (← running.mapM (·.run m)).flatten
  let (suppressions, suppressionEvents) := metadataSuppressions m
  return (found ++ suppressionEvents).map (applySuppressions m suppressions)

/-- The model validator of project settings: some validators disabled, and
the timestamp linter, with extra name patterns, when linting is on. -/
def configured (disabled : List String) (lint : Bool) (patterns : List String) :
    Except ValidatorError ModelValidator :=
  let v := disabled.foldl ModelValidator.disable {}
  if lint then v.enable "ShouldHaveUsedTimestamp" (.obj [("additionalPatterns", .arr (patterns.map Node.str))])
  else .ok v

end ModelValidator

/-- The outcome of validation: a model and its events. -/
structure ValidatedResult where
  model : Model
  events : List Event

namespace ValidatedResult

/-- Whether any event is an error. -/
def isBroken (r : ValidatedResult) : Bool := r.events.any (·.severity == .error)

/-- The text of a broken model: a heading and one line per event. -/
def brokenText (events : List Event) : String :=
  events.foldl (fun acc e => acc ++ "\n" ++ e.text) "Result contains ERROR or DANGER events:"

/-- The model if it is not broken, otherwise its events at `DANGER` or above. -/
def intoResult (r : ValidatedResult) : Except (List Event) Model :=
  if r.isBroken then .error (r.events.filter (·.severity.atLeast .danger)) else .ok r.model

end ValidatedResult

end ShapeKit
