import ShapeKit.Unicode.Property
import ShapeKit.Unicode.Table.Names

/-!
# Looking up a property by name

A pattern names a class as `\pL`, `\p{Greek}`, `\p{Script=Greek}`,
`\p{sc:greek}` or `\p{gc!=Lu}`. Names are compared loosely: blanks, `_` and `-`
are dropped, ASCII letters are lowered, other non-ASCII characters are dropped,
and a leading `is` is ignored, so `\p{Is_Alphabetic}` and `\p{alpha betic}`
name the same property.

A lone name is tried, in this order, as a property (except `cf`, `sc` and `lc`,
which mean the categories `Format`, `Currency_Symbol` and `Cased_Letter`), as a
general category (or `Any`, `Assigned`, `ASCII`), and as a script. A name with a
value names the property first; the general category, script, script
extensions, age and the three break properties take values.

Two mistakes are told apart: a name that is no property at all
(`propertyNotFound`), and a known name with an unknown value or with no data
behind it (`propertyValueNotFound`). A known property that is not binary, such
as `Block`, is `propertyNotFound` when named alone.
-/

namespace ShapeKit.Unicode

/-! ## §1. Loose names -/

/-- A name as names are compared: without blanks, `_`, `-` and non-ASCII
characters, lowered, and without a leading `is`. The name `isc` stays `isc`. -/
def looseName (s : String) : String :=
  let cs := s.toList
  let startsIs := match cs with
    | a :: b :: _ => (a == 'i' || a == 'I') && (b == 's' || b == 'S')
    | _ => false
  let body := if startsIs then cs.drop 2 else cs
  let kept := (body.filter fun c => c != ' ' && c != '_' && c != '-' && c.toNat < 128).map
    Char.toLower
  if startsIs && kept == ['c'] then "isc" else String.ofList kept

/-- The first name of the entry one of whose names matches a loose name. -/
def canonicalIn (entries : List (List String)) (loose : String) : Option String :=
  (entries.find? fun names => names.any fun n => looseName n == loose).bind List.head?

/-- The long name of a property. -/
def canonicalProperty? (loose : String) : Option String := canonicalIn Table.propertyNames loose

/-- The long name of a general category or group, or `Any`, `Assigned`, `ASCII`. -/
def canonicalCategory? (loose : String) : Option String :=
  if loose == "any" then some "Any"
  else if loose == "assigned" then some "Assigned"
  else if loose == "ascii" then some "ASCII"
  else canonicalIn Table.categoryNames loose

/-- The long name of a script. -/
def canonicalScript? (loose : String) : Option String :=
  canonicalIn (Table.scriptNames ++ Table.scriptsWithoutCodePoints) loose

/-! ## §2. Sets of the named values -/

/-- Why a name gives no set. -/
inductive QueryError where
  | propertyNotFound
  | propertyValueNotFound
deriving DecidableEq, Repr

/-- The categories a category name covers: a two-letter code covers its own
category, a one-letter code every category it begins, and `LC` the cased
letters. -/
def categoryMatches (code : String) (c : Category) : Bool :=
  if code == "LC" then c == .lu || c == .ll || c == .lt
  else if code.length == 1 then c.code.startsWith code
  else c.code == code

/-- The code points of a general category or group, by long name. -/
def categoryClass (name : String) : Except QueryError (List CodeRange) :=
  if name == "ASCII" then .ok [⟨0, 0x7F⟩]
  else if name == "Any" then .ok [⟨0, 0x10FFFF⟩]
  else if name == "Assigned" then .ok (negate Bound.char (categorySet (· == .cn)))
  else
    match Table.categoryNames.find? (·.head? == some name) with
    | some (_ :: code :: _) => .ok (categorySet (categoryMatches code))
    | _ => .error .propertyValueNotFound

/-- The number of a script by its long name; scripts without code points of
their own have none. -/
def scriptNumber? (name : String) : Option Nat :=
  (Table.scriptNames.findIdx? (·.head? == some name)).map (· + 1)

/-- The code points of a script, by long name. -/
def scriptClass (name : String) : Except QueryError (List CodeRange) :=
  match scriptNumber? name with
  | some n => .ok (scriptSet n)
  | none => .error .propertyValueNotFound

/-- The code points whose script extensions hold a script, by long name. -/
def scriptExtensionClass (name : String) : Except QueryError (List CodeRange) :=
  match scriptNumber? name with
  | some n => .ok (scriptExtensionSet n)
  | none => .error .propertyValueNotFound

/-- A set found by name, or the mistake when there is none. -/
def orError (e : QueryError) : Option (List CodeRange) → Except QueryError (List CodeRange)
  | some rs => .ok rs
  | none => .error e

/-- What a pattern asks for inside `\p`: one letter, a name, or a property
with a value. -/
inductive ClassQuery where
  | oneLetter (c : Char)
  | named (name : String)
  | byValue (property value : String)

/-- The set of a lone name: a binary property, a general category or a script. -/
def loneClass (name : String) : Except QueryError (List CodeRange) :=
  let loose := looseName name
  let asProperty :=
    if loose == "cf" || loose == "sc" || loose == "lc" then none else canonicalProperty? loose
  match asProperty with
  | some p => orError .propertyNotFound (binarySet? p)
  | none =>
    match canonicalCategory? loose with
    | some c => categoryClass c
    | none =>
      match canonicalScript? loose with
      | some s => scriptClass s
      | none => .error .propertyNotFound

/-- The long name of a value among the names of a property's values. -/
def valueClass (names : List (List String)) (find : String → Option (List CodeRange))
    (loose : String) : Except QueryError (List CodeRange) :=
  match canonicalIn names loose with
  | some v => orError .propertyValueNotFound (find v)
  | none => .error .propertyValueNotFound

/-- The set of a property with a value. -/
def valuedClass (property value : String) : Except QueryError (List CodeRange) :=
  let loose := looseName value
  match canonicalProperty? (looseName property) with
  | none => .error .propertyNotFound
  | some "General_Category" =>
    match canonicalCategory? loose with
    | some c => categoryClass c
    | none => .error .propertyValueNotFound
  | some "Script" =>
    match canonicalScript? loose with
    | some s => scriptClass s
    | none => .error .propertyValueNotFound
  | some "Script_Extensions" =>
    match canonicalScript? loose with
    | some s => scriptExtensionClass s
    | none => .error .propertyValueNotFound
  | some "Age" => valueClass Table.ageNames ageSet? loose
  | some "Grapheme_Cluster_Break" => valueClass Table.graphemeBreakNames graphemeBreakSet? loose
  | some "Sentence_Break" => valueClass Table.sentenceBreakNames sentenceBreakSet? loose
  | some "Word_Break" => valueClass Table.wordBreakNames wordBreakSet? loose
  | some _ => .error .propertyValueNotFound

/-- The set a query names. -/
def ClassQuery.set : ClassQuery → Except QueryError (List CodeRange)
  | .oneLetter c => loneClass (String.singleton c)
  | .named name => loneClass name
  | .byValue p v => valuedClass p v

end ShapeKit.Unicode
