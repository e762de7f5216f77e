import ShapeKit.ShapeId
import ShapeKit.Json.Reader

/-!
# Load errors and model versions

The problems that stop a model source from loading at all: a model version
that is malformed or incompatible, a missing or invalid namespace, a bad shape
ID, a malformed JSON model, unreadable JSON or an unreadable file. Everything
else a loader finds becomes a validation event instead.

A version is `major.minor` or `major.minor.patch`, each part ASCII digits that
fit in 64 bits. A version is supported by another when the majors agree and
the minor is not newer; for major 0 the minors must agree exactly.
-/

namespace ShapeKit

/-- The model version this library reads and writes. -/
def modelVersion : String := "1.0"

/-- Why a model source does not load. -/
inductive LoadError where
  | incompatibleVersion (found : String)
  | conflictingVersion (found previous : String)
  | invalidVersion (version : String)
  | missingNamespace
  | invalidNamespace (ns : String)
  | aliasConflict (name existing : String)
  | invalidShapeId (file : String) (e : ShapeIdError)
  | invalidAst (file message : String)
  | json (file : String) (e : Json.ReadError)
  | io (path cause : String)

namespace LoadError

/-- The message of a load error. -/
def message : LoadError → String
  | .incompatibleVersion f =>
    s!"Invalid model version provided: `{f}`. Expected a version compatible with `{modelVersion}`"
  | .conflictingVersion f p =>
    s!"Cannot set model version to `{f}` because it was previously set to the incompatible version `{p}`"
  | .invalidVersion v => s!"Invalid model version number: `{v}`"
  | .missingNamespace => "A namespace must be set before shapes or traits can be defined"
  | .invalidNamespace ns => s!"Invalid namespace `{ns}`"
  | .aliasConflict n e => s!"Name `{n}` conflicts with imported shape `{e}`"
  | .invalidShapeId f e => s!"Invalid shape ID in {f}: {e.message}"
  | .invalidAst f m => s!"Invalid JSON model in {f}: {m}"
  | .json f e => s!"Failed to parse JSON in {f}: {e.message}"
  | .io p c => s!"Failed to read {p}: {c}"

/-- The name of the error's kind. -/
def kind : LoadError → String
  | .incompatibleVersion _ => "IncompatibleVersion"
  | .conflictingVersion _ _ => "ConflictingVersion"
  | .invalidVersion _ => "InvalidVersion"
  | .missingNamespace => "MissingNamespace"
  | .invalidNamespace _ => "InvalidNamespace"
  | .aliasConflict _ _ => "AliasConflict"
  | .invalidShapeId _ _ => "InvalidShapeId"
  | .invalidAst _ _ => "InvalidAst"
  | .json _ _ => "Json"
  | .io _ _ => "Io"

end LoadError

/-- The value of a non-empty run of ASCII digits below 2^64. -/
def versionPart (p : String) : Option Nat :=
  if p.isEmpty || !p.toList.all Char.isDigit then none
  else
    let n := p.toList.foldl (fun n c => 10 * n + (c.toNat - '0'.toNat)) 0
    if n < Nat.pow 2 64 then some n else none

/-- The two or three numeric parts of a version. -/
def versionParts (v : String) : Except LoadError (Nat × Nat) := do
  let parts := v.splitToList (· == '.')
  if parts.length < 2 || parts.length > 3 then throw (.invalidVersion v)
  let nums ← parts.mapM fun p =>
    match versionPart p with
    | some n => pure n
    | none => throw (LoadError.invalidVersion v)
  match nums with
  | a :: b :: _ => return (a, b)
  | _ => throw (.invalidVersion v)

/-- Whether a loader for version `supported` reads version `version`. -/
def isVersionSupported (version supported : String) : Except LoadError Bool := do
  let (major, minor) ← versionParts version
  let (knownMajor, knownMinor) ← versionParts supported
  if major != knownMajor then return false
  if major == 0 then return minor == knownMinor
  return minor ≤ knownMinor

end ShapeKit
