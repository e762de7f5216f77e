import ShapeKit.Shape.Type
import ShapeKit.Relationship

/-!
# Selector syntax

A selector is a pipeline of steps; each step takes the set of shapes the
previous step produced. Steps filter by type (`structure`, `number`, `*`),
filter by attributes (`[trait|required]`, `[id|name ^= Get i]`), filter by
scoped assertions (`[@trait|range: @{min} > 1]`), move along relationships
(`>`, `<`, `-[input, output]->`, `<-[member]-`, `~>`), or combine inner
selectors (`:is`, `:not`, `:test`, `:topdown`).
-/

namespace ShapeKit.Selector

/-- A filter on shape types. -/
inductive TypeFilter where
  -- `*`
  | any
  | type (t : ShapeType)
  -- `number`: the eight number types.
  | number
  -- `simpleType`: the thirteen simple types.
  | simpleType
  -- `collection`: lists and sets.
  | collection
deriving DecidableEq, Repr

namespace TypeFilter

/-- The filter a name stands for. -/
def ofName? (name : String) : Option TypeFilter :=
  if name == "*" then some .any
  else if name == "number" then some .number
  else if name == "simpleType" then some .simpleType
  else if name == "collection" then some .collection
  else (ShapeType.ofName? name).map .type

/-- Whether a type passes the filter. -/
def accepts : TypeFilter → ShapeType → Bool
  | .any, _ => true
  | .type t, u => t == u
  | .number, u => u.isNumber
  | .simpleType, u => u.isSimple
  | .collection, u => u.isCollection

end TypeFilter

/-- Which way a neighbor step walks. -/
inductive Direction where
  | forward
  | reverse
deriving DecidableEq, Repr

/-- A comparison operator of an attribute filter. -/
inductive Comparator where
  -- `=`
  | equals
  -- `!=`
  | notEquals
  -- `^=`
  | startsWith
  -- `$=`
  | endsWith
  -- `*=`
  | contains
  -- `?=`
  | isPresent
  -- `>`
  | greater
  -- `>=`
  | greaterOrEqual
  -- `<`
  | less
  -- `<=`
  | lessOrEqual
deriving DecidableEq, Repr

/-- The comparison part of `[path op values i]`. -/
structure Comparison where
  comparator : Comparator
  values : List String
  caseInsensitive : Bool
deriving DecidableEq, Repr

/-- One side of a scoped assertion. -/
inductive ScopedValue where
  | literal (text : String)
  -- `@{path}`: a path into the current scope value.
  | context (path : List String)
deriving DecidableEq, Repr

/-- `lhs op rhs, rhs i` inside a scoped attribute filter. -/
structure ScopedAssertion where
  lhs : ScopedValue
  comparator : Comparator
  rhs : List ScopedValue
  caseInsensitive : Bool
deriving DecidableEq, Repr

/-- One step of a selector. -/
inductive Step where
  | type (filter : TypeFilter)
  -- `[path]` or `[path op values]`.
  | attribute (path : List String) (comparison : Option Comparison)
  -- `[@scope: assertion && ...]`; an empty scope is the shape itself.
  | scoped (scope : List String) (assertions : List ScopedAssertion)
  -- A walk along relationships with these labels; no label walks every plain relationship.
  | neighbor (direction : Direction) (labels : List String)
  -- `~>`: every shape reachable by plain relationships.
  | recursive
  -- `:is(...)` and `:each(...)`: the union of the alternatives.
  | is (alternatives : List (List Step))
  -- `:not(...)`: the shapes the inner selector yields nothing for.
  | not (inner : List Step)
  -- `:test(...)`: the shapes some alternative yields something for.
  | test (alternatives : List (List Step))
  -- `:topdown(qualifier, disqualifier)`.
  | topDown (qualifier : List Step) (disqualifier : Option (List Step))

mutual
/-- Whether a step walks `trait` relationships, looking into inner selectors. -/
def Step.usesTraits : Step → Bool
  | .neighbor _ labels => labels.contains "trait"
  | .is alts | .test alts => alternativesUseTraits alts
  | .not inner => stepsUseTraits inner
  | .topDown q d =>
    stepsUseTraits q ||
      (match d with
       | some d => stepsUseTraits d
       | none => false)
  | _ => false

/-- Whether some step of a list walks `trait` relationships. -/
def stepsUseTraits : List Step → Bool
  | [] => false
  | s :: rest => s.usesTraits || stepsUseTraits rest

/-- Whether some alternative walks `trait` relationships. -/
def alternativesUseTraits : List (List Step) → Bool
  | [] => false
  | a :: rest => stepsUseTraits a || alternativesUseTraits rest
end

end ShapeKit.Selector
