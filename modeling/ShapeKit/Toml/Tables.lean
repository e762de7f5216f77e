import ShapeKit.Toml.Value

/-!
# Assembling tables

Key/value pairs and headers are put together into tables here, and the rules
on defining a table twice are checked.

In an inline table a dotted key makes implicit tables on its way; it may go
on through implicit tables but not into a table written as a value, and a key
may not be given twice.

A document is built one table at a time. Key/value lines go into the *current*
table, which is put into the document when the next header comes (and at the
end). A `[header]` may take over an implicit table made earlier on the way to a
deeper header, but not one made by a dotted key, nor any other item; a
`[[header]]` adds a table to an array of tables. On the way to a header,
arrays of tables are entered through their last table.
-/

namespace ShapeKit.Toml

/-! ## §1. Messages -/

/-- The name of the table a path leads to, in messages. -/
def tableName (path : List Key) : String :=
  let dotted := dottedNames path
  if path.isEmpty then "document root" else s!"table `{dotted}`"

/-- A key given twice, without saying where. -/
def duplicateKey (k : Key) : String :=
  let name := k.name
  s!"duplicate key `{name}`"

/-- The key at place `i` of a header path, which names a table that cannot be
defined again. -/
def duplicateHeaderKey (path : List Key) (i : Nat) : String :=
  let shown := (path[i]?.map Key.shown).getD ""
  let place := tableName (path.take i)
  s!"duplicate key `{shown}` in {place}"

/-- A dotted key that goes through something other than a table. -/
def extendsNonTable (path : List Key) (kind : String) : String :=
  let dotted := dottedNames path
  s!"dotted key `{dotted}` attempted to extend non-table type ({kind})"

/-! ## §2. Inline tables -/

/-- Entries of an inline table. -/
abbrev InlineEntries := List (Key × Value × Option Span)

/-- Replaces the value of the entry of a name. -/
def InlineEntries.update (es : InlineEntries) (name : String) (v : Value) : InlineEntries :=
  es.map fun e => if e.1.name == name then (e.1, v, e.2.2) else e

/-- Puts a value under a key at the end of a dotted path in an inline table's
entries; `done` is the part of the path already walked. -/
def insertInline (done : List Key) : List Key → Key → Value → Span → InlineEntries →
    Except String InlineEntries
  | [], k, v, s, es =>
    if es.any (·.1.name == k.name) then .error (duplicateKey k)
    else .ok (es ++ [(k, v, some s)])
  | p :: rest, k, v, s, es =>
    match es.find? (·.1.name == p.name) with
    | none => do
      let inner ← insertInline (done ++ [p]) rest k v s []
      return es ++ [(p, .inlineTable inner true, none)]
    | some (_, .inlineTable inner true, _) => do
      let inner' ← insertInline (done ++ [p]) rest k v s inner
      return es.update p.name (.inlineTable inner' true)
    | some (_, .inlineTable _ false, _) => .error (duplicateKey p)
    | some (_, other, _) => .error (extendsNonTable (done ++ [p]) other.typeName)

/-- The entries of an inline table from its pairs, in order. -/
def inlineEntries (pairs : List (List Key × Key × Value × Span)) : Except String InlineEntries :=
  pairs.foldlM (fun es (path, k, v, s) => insertInline [] path k v s es) []

/-! ## §3. Document tables -/

/-- A document table while it is built. -/
structure Table where
  entries : List (Key × Item) := []
  implicit : Bool := false
  dotted : Bool := false
  span : Option Span := none

namespace Table

/-- The table as an item. -/
def toItem (t : Table) : Item := .table t.entries t.implicit t.dotted t.span

/-- The entry of a name. -/
def find? (t : Table) (name : String) : Option (Key × Item) :=
  t.entries.find? (·.1.name == name)

/-- Replaces the entry of a name, keeping its key. -/
def update (t : Table) (name : String) (it : Item) : Table :=
  { t with entries := t.entries.map fun e => if e.1.name == name then (e.1, it) else e }

/-- Adds an entry at the end. -/
def push (t : Table) (k : Key) (it : Item) : Table := { t with entries := t.entries ++ [(k, it)] }

/-- Removes the entry of a name. -/
def remove (t : Table) (name : String) : Table :=
  { t with entries := t.entries.filter (·.1.name != name) }

/-- Applies a change to the table at the end of a path, making implicit
tables (dotted ones when `dotted`) where there is none and entering an array
of tables through its last table. A dotted path may not enter a table that is
not implicit. `done` is the part of the path already walked. -/
def modifyAt {β : Type} (dotted : Bool) (f : Table → Except String (Table × β)) (done : List Key) :
    List Key → Table → Except String (Table × β)
  | [], t => f t
  | k :: rest, t =>
    match t.find? k.name with
    | none => do
      let (inner, b) ← modifyAt dotted f (done ++ [k]) rest { implicit := true, dotted }
      return (t.push k inner.toItem, b)
    | some (_, .value v _) => .error (extendsNonTable (done ++ [k]) v.typeName)
    | some (_, .arrayOfTables ts s) =>
      match ts.getLast? with
      | none => .error (duplicateKey k)
      | some (es, ls) => do
        let (inner, b) ← modifyAt dotted f (done ++ [k]) rest { entries := es, span := ls }
        return (t.update k.name (.arrayOfTables (ts.dropLast ++ [(inner.entries, inner.span)]) s), b)
    | some (_, .table es imp dot s) =>
      if dotted && !imp then .error (duplicateKey k)
      else do
        let (inner, b) ← modifyAt dotted f (done ++ [k]) rest
          { entries := es, implicit := imp, dotted := dot, span := s }
        return (t.update k.name inner.toItem, b)

end Table

/-- The span from the first to the last of a list of spans, when both are known. -/
def spanAcross (spans : List (Option Span)) : Option Span :=
  match spans.head?, spans.getLast? with
  | some (some a), some (some b) => some ⟨a.start, b.stop⟩
  | _, _ => none

/-- A document while it is built: the tables put in so far, the current
table with the path of its header, and whether that header is `[[…]]`. -/
structure Builder where
  root : Table := {}
  current : Table := { span := some ⟨0, 0⟩ }
  path : List Key := []
  isArray : Bool := false

namespace Builder

/-- Puts a key/value line into the current table. -/
def keyValue (b : Builder) (path : List Key) (k : Key) (v : Value) (span : Span) :
    Except String Builder := do
  let current := { b.current with span := b.current.span.map fun (s : Span) => ⟨s.start, span.stop⟩ }
  let (current, _) ← current.modifyAt true (fun t =>
    if t.dotted == path.isEmpty then .error (duplicateKey k)
    else if (t.find? k.name).isSome then
      let name := k.name
      let place := tableName b.path
      .error s!"duplicate key `{name}` in {place}"
    else .ok (t.push k (.value v (some span)), ())) [] path
  return { b with current }

/-- Puts the current table into the document. -/
def finish (b : Builder) : Except String Builder := do
  let t := b.current
  let cleared : Builder := { b with current := {}, path := [], isArray := false }
  match b.path.getLast? with
  | none => return { cleared with root := t }
  | some k =>
    let n := b.path.length
    let (root, _) ← b.root.modifyAt false (fun parent =>
      if b.isArray then
        match parent.find? k.name with
        | none => .ok (parent.push k (.arrayOfTables [(t.entries, t.span)] t.span), ())
        | some (_, .arrayOfTables ts _) =>
          let ts' := ts ++ [(t.entries, t.span)]
          .ok (parent.update k.name (.arrayOfTables ts' (spanAcross (ts'.map (·.2)))), ())
        | some _ => .error (duplicateHeaderKey b.path (n - 1))
      else
        match parent.find? k.name with
        | none => .ok (parent.push k t.toItem, ())
        | some (_, .table _ true _ _) => .ok (parent.update k.name t.toItem, ())
        | some _ => .error (duplicateHeaderKey b.path (n - 1))) [] b.path.dropLast
    return { cleared with root }

/-- Starts the table of a `[header]`: it takes over an implicit table made
earlier on the way to a deeper header. -/
def startTable (b : Builder) (path : List Key) (span : Span) : Except String Builder := do
  let k := path.getLastD ⟨"", span⟩
  let n := path.length
  let (root, taken) ← b.root.modifyAt false (fun parent =>
    match parent.find? k.name with
    | none => .ok (parent, [])
    | some (_, .table es true false _) => .ok (parent.remove k.name, es)
    | some _ => .error (duplicateHeaderKey path (n - 1))) [] path.dropLast
  return { b with root, current := { entries := taken, span := some span }, path, isArray := false }

/-- Starts a table of a `[[header]]`: the array of tables is made if there is
none yet. -/
def startArrayTable (b : Builder) (path : List Key) (span : Span) : Except String Builder := do
  let k := path.getLastD ⟨"", span⟩
  let n := path.length
  let (root, _) ← b.root.modifyAt false (fun parent =>
    match parent.find? k.name with
    | none => .ok (parent.push k (.arrayOfTables [] none), ())
    | some (_, .arrayOfTables _ _) => .ok (parent, ())
    | some _ => .error (duplicateHeaderKey path (n - 1))) [] path.dropLast
  return { b with root, current := { span := some span }, path, isArray := true }

/-- A `[header]` line: the current table is put in and a new one started. -/
def tableHeader (b : Builder) (path : List Key) (span : Span) : Except String Builder := do
  (← b.finish).startTable path span

/-- A `[[header]]` line: the current table is put in and a new one started. -/
def arrayHeader (b : Builder) (path : List Key) (span : Span) : Except String Builder := do
  (← b.finish).startArrayTable path span

end Builder

end ShapeKit.Toml
