import ShapeKit.Shape.Basic

/-!
# Building shapes

A `Builder` collects the parts of one shape: every setter is open to every
type, and `Builder.build` keeps the parts the type uses. Mistakes made while
collecting (a member added before the ID, a bad member name, a member that
does not build) are held back, the first one only, and reported by `build`.

`build` checks, in order: a held-back mistake; that an ID is set; that a
member has a member ID and no other shape has one; that every collected member
is a member of this very shape and allowed for its type (only `member` for
lists and sets, `key` and `value` for maps, any name for structures and unions,
none for other types); that lists and sets have `member`, and maps `key` and
then `value`; and that a member has a target.
-/

namespace ShapeKit

open Json

/-- Why a builder does not build. -/
inductive ShapeError where
  | missingId (t : ShapeType)
  | memberBeforeId (t : ShapeType) (member : String)
  | missingTarget (id : ShapeId)
  | memberIdRequired (id : ShapeId)
  | unexpectedMemberId (t : ShapeType) (id : ShapeId)
  | missingMember (t : ShapeType) (id : ShapeId) (member : String)
  | memberIdMismatch (container : ShapeId) (member : String) (found : ShapeId)
  | unsupportedMember (t : ShapeType) (id : ShapeId) (member : String)
  | notAMember (id : ShapeId)
  | invalidId (e : ShapeIdError)

namespace ShapeError

/-- The message of a build error. -/
def message : ShapeError → String
  | .missingId t => s!"Shape builder for a {t.name} shape is missing an ID"
  | .memberBeforeId t m => s!"An ID must be set on the {t.name} builder before adding member `{m}`"
  | .missingTarget id => s!"Member shape `{id.text}` is missing a target"
  | .memberIdRequired id => s!"Member shapes require an ID with a member name, found `{id.text}`"
  | .unexpectedMemberId t id => s!"Only member shapes may have member IDs, found {t.name} `{id.text}`"
  | .missingMember t id m => s!"{t.name} shape `{id.text}` is missing required member `{m}`"
  | .memberIdMismatch c m f =>
    s!"Expected member `{m}` of `{c.text}` to be `{c.text}${m}`, found `{f.text}`"
  | .unsupportedMember t id m => s!"{t.name} shape `{id.text}` does not support member `{m}`"
  | .notAMember id => s!"`{id.text}` is not a member shape"
  | .invalidId e => e.message

/-- The name of the error's kind. -/
def kind : ShapeError → String
  | .missingId _ => "MissingId"
  | .memberBeforeId _ _ => "MemberBeforeId"
  | .missingTarget _ => "MissingTarget"
  | .memberIdRequired _ => "MemberIdRequired"
  | .unexpectedMemberId _ _ => "UnexpectedMemberId"
  | .missingMember _ _ _ => "MissingMember"
  | .memberIdMismatch _ _ _ => "MemberIdMismatch"
  | .unsupportedMember _ _ _ => "UnsupportedMember"
  | .notAMember _ => "NotAMember"
  | .invalidId _ => "InvalidId"

end ShapeError

/-- The parts of a shape being built. -/
structure Builder where
  type : ShapeType
  id : Option ShapeId := none
  source : SourceLocation := SourceLocation.none
  traits : TraitMap := []
  members : List Shape := []
  target : Option ShapeId := none
  operation : OperationData := {}
  resource : ResourceData := {}
  service : ServiceData := {}
  error : Option ShapeError := none

namespace Builder

/-- A builder for a type, with nothing set. -/
def new (t : ShapeType) : Builder := { type := t }

/-- Keeps the first mistake. -/
def fail (b : Builder) (e : ShapeError) : Builder :=
  match b.error with
  | some _ => b
  | none => { b with error := some e }

/-- Sets the ID. -/
def setId (b : Builder) (id : ShapeId) : Builder := { b with id := some id }

/-- Sets the place. -/
def setSource (b : Builder) (s : SourceLocation) : Builder := { b with source := s }

/-- Adds or replaces a trait. -/
def addTrait (b : Builder) (t : Trait) : Builder := { b with traits := b.traits.insert t }

/-- Drops a trait. -/
def removeTrait (b : Builder) (id : ShapeId) : Builder := { b with traits := b.traits.erase id }

/-- Puts a built member, replacing a collected member with the same ID in place. -/
def pushMember (b : Builder) (m : Shape) : Builder :=
  if b.members.any (·.id == m.id) then
    { b with members := b.members.map fun x => if x.id == m.id then m else x }
  else { b with members := b.members ++ [m] }

/-- Adds a built shape as a member; `build` checks that it is one. -/
def addMember (b : Builder) (m : Shape) : Builder := b.pushMember m

/-- Drops collected members with a name. -/
def removeMember (b : Builder) (name : String) : Builder :=
  { b with members := b.members.filter (·.id.member != some name) }

/-- Sets the target of a member. -/
def setTarget (b : Builder) (t : ShapeId) : Builder := { b with target := some t }

/-- Sets an operation's input. -/
def setInput (b : Builder) (t : ShapeId) : Builder :=
  { b with operation := { b.operation with input := some t } }

/-- Sets an operation's output. -/
def setOutput (b : Builder) (t : ShapeId) : Builder :=
  { b with operation := { b.operation with output := some t } }

/-- Adds an operation error. -/
def addError (b : Builder) (t : ShapeId) : Builder :=
  { b with operation := { b.operation with errors := b.operation.errors ++ [t] } }

/-- Sets a service's version. -/
def setVersion (b : Builder) (v : String) : Builder :=
  { b with service := { b.service with version := v } }

/-- Binds an operation: to the resource data for a resource, else to the service data. -/
def addOperation (b : Builder) (t : ShapeId) : Builder :=
  if b.type == .resource then
    { b with resource := { b.resource with operations := b.resource.operations ++ [t] } }
  else { b with service := { b.service with operations := b.service.operations ++ [t] } }

/-- Binds a resource: to the resource data for a resource, else to the service data. -/
def addResource (b : Builder) (t : ShapeId) : Builder :=
  if b.type == .resource then
    { b with resource := { b.resource with resources := b.resource.resources ++ [t] } }
  else { b with service := { b.service with resources := b.service.resources ++ [t] } }

/-- Sets a resource identifier. -/
def setIdentifier (b : Builder) (name : String) (t : ShapeId) : Builder :=
  { b with resource := { b.resource with
      identifiers := ResourceData.putIdentifier b.resource.identifiers name t } }

/-- Sets the lifecycle operation with a name (`create`, `read`, `update`, `delete` or `list`). -/
def setLifecycle (b : Builder) (which : String) (t : ShapeId) : Builder :=
  let r := b.resource
  let r' :=
    if which == "create" then { r with create := some t }
    else if which == "read" then { r with read := some t }
    else if which == "update" then { r with update := some t }
    else if which == "delete" then { r with delete := some t }
    else { r with list := some t }
  { b with resource := r' }

/-- Takes the collected member with a name out of the list. -/
def takeMember (members : List Shape) (t : ShapeType) (id : ShapeId) (name : String) :
    Except ShapeError (Shape × List Shape) :=
  match members.find? (·.id.member == some name) with
  | some m => .ok (m, members.filter fun x => x.id.member != some name || x.id != m.id)
  | none => .error (.missingMember t id name)

/-- A member shape as member data. -/
def asMember (s : Shape) : Member :=
  ⟨s.id, s.target.getD s.id, s.traits, s.source⟩

/-- The member names a type allows: only `member` for lists and sets, `key` and
`value` for maps, any name for structures and unions, none for other types. -/
def memberAllowed (t : ShapeType) (name : String) : Bool :=
  match t with
  | .list | .set => name == "member"
  | .map => name == "key" || name == "value"
  | .structure | .union => true
  | _ => false

/-- A member shape, and only a member shape, has a member ID. -/
def checkId (t : ShapeType) (id : ShapeId) : Except ShapeError Unit :=
  if t == .member then
    if !id.isMember then .error (.memberIdRequired id) else .ok ()
  else if id.isMember then .error (.unexpectedMemberId t id)
  else .ok ()

/-- The checks made of one collected member: it is a member, of this very shape,
and allowed for the type. -/
def checkMember (t : ShapeType) (id : ShapeId) (m : Shape) : Except ShapeError Unit :=
  let name := m.id.member.getD ""
  if !m.isMember then .error (.notAMember m.id)
  else if m.id.withoutMember != id then .error (.memberIdMismatch id name m.id)
  else if !memberAllowed t name then .error (.unsupportedMember t id name)
  else .ok ()

/-- The body of the shape: lists and sets take out `member`, maps `key` and then
`value`, structures and unions keep every member, a member needs its target. -/
def bodyFor (b : Builder) (id : ShapeId) : Except ShapeError Body :=
  match b.type with
  | .list => do
    let (m, _) ← takeMember b.members b.type id "member"
    pure (Body.list (asMember m))
  | .set => do
    let (m, _) ← takeMember b.members b.type id "member"
    pure (Body.set (asMember m))
  | .map => do
    let (k, rest) ← takeMember b.members b.type id "key"
    let (v, _) ← takeMember rest b.type id "value"
    pure (Body.map (asMember k) (asMember v))
  | .structure => pure (Body.structure (b.members.map asMember))
  | .union => pure (Body.union (b.members.map asMember))
  | .member =>
    match b.target with
    | some t => pure (Body.member t)
    | none => throw (.missingTarget id)
  | .operation => pure (Body.operation b.operation)
  | .resource => pure (Body.resource b.resource)
  | .service => pure (Body.service b.service)
  | t => pure (Body.simple t)

/-- Builds the shape, or reports the first problem. -/
def build (b : Builder) : Except ShapeError Shape :=
  match b.error, b.id with
  | some e, _ => .error e
  | none, none => .error (.missingId b.type)
  | none, some id => do
    checkId b.type id
    b.members.forM (checkMember b.type id)
    let body ← b.bodyFor id
    return ⟨id, body, b.traits, b.source⟩

/-- Adds a member `name` targeting `target`, shaped further by `configure`
(traits, place); the member starts with the builder's place. -/
def memberWith (b : Builder) (name : String) (target : ShapeId) (configure : Builder → Builder) :
    Builder :=
  match b.id with
  | none => b.fail (.memberBeforeId b.type name)
  | some id =>
    match id.withMember name with
    | .error e => b.fail (.invalidId e)
    | .ok memberId =>
      let mb := configure ((Builder.new .member).setId memberId |>.setTarget target |>.setSource b.source)
      match mb.build with
      | .ok m => b.pushMember m
      | .error e => b.fail e

/-- Adds a member `name` targeting `target`. -/
def addMemberNamed (b : Builder) (name : String) (target : ShapeId) : Builder :=
  b.memberWith name target (fun x => x)

end Builder

/-- A builder holding every part of a shape, so that building it again gives an
equal shape. -/
def Shape.toBuilder (s : Shape) : Builder :=
  let b : Builder := { type := s.type, id := some s.id, source := s.source, traits := s.traits,
                       members := s.memberShapes }
  match s.body with
  | .member t => { b with target := some t }
  | .operation d => { b with operation := d }
  | .resource d => { b with resource := d }
  | .service d => { b with service := d }
  | _ => b

end ShapeKit
