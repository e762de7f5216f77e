import ShapeKit.Toml.Error

/-!
# TOML values and documents

A document is a table of items. An item is a value written after a key, a
table (opened by a `[header]`, or made on the way to a deeper key), or an
array of tables (`[[header]]`). Values written inline are strings, integers,
floats, booleans, date-times, arrays and inline tables.

Keys keep the span of their text and values the span of theirs, so that a
decoder can point at what it refuses. A table made on the way to a deeper key
is *implicit* and has no span of its own; one made by a dotted key
(`a.b = 1` makes `a`) is also *dotted*. These marks decide which later
definitions of the same table are allowed.
-/

namespace ShapeKit.Toml

/-- A key: its name, and the span of the text it was written as. -/
structure Key where
  name : String
  span : Span
deriving DecidableEq, Repr

/-- A value written inline. An inline table marks whether it was made by a
dotted key inside another inline table; such a table has no span. -/
inductive Value where
  | string (s : String)
  | integer (i : Int)
  | float (text : String)
  | boolean (b : Bool)
  | datetime (text : String)
  | array (items : List (Value × Span))
  | inlineTable (entries : List (Key × Value × Option Span)) (implicit : Bool)

/-- An entry of a document table. -/
inductive Item where
  | value (v : Value) (span : Option Span)
  | table (entries : List (Key × Item)) (implicit dotted : Bool) (span : Option Span)
  | arrayOfTables (tables : List (List (Key × Item) × Option Span)) (span : Option Span)

/-- The name of a value's kind. -/
def Value.typeName : Value → String
  | .string _ => "string"
  | .integer _ => "integer"
  | .float _ => "float"
  | .boolean _ => "boolean"
  | .datetime _ => "datetime"
  | .array _ => "array"
  | .inlineTable _ _ => "inline table"

/-- The span of an item, when it has one. -/
def Item.span : Item → Option Span
  | .value _ s => s
  | .table _ _ _ s => s
  | .arrayOfTables _ s => s

/-- Characters of bare keys. -/
def isBareKeyChar (c : Char) : Bool :=
  c.isAlphanum && c.toNat < 128 || c == '-' || c == '_'

/-- Uppercase hexadecimal digits of a number, at least four. -/
def hex4 (n : Nat) : String :=
  let ds := (Nat.toDigits 16 n).map Char.toUpper
  String.ofList (List.replicate (4 - ds.length) '0' ++ ds)

/-- A text as a one-line basic string: quotes, backslashes and control
characters escaped. -/
def quoteBasic (s : String) : String :=
  let esc (c : Char) : String :=
    if c = '\x08' then "\\b"
    else if c = '\t' then "\\t"
    else if c = '\n' then "\\n"
    else if c = '\x0c' then "\\f"
    else if c = '\r' then "\\r"
    else if c = '"' then "\\\""
    else if c = '\\' then "\\\\"
    else if c.toNat ≤ 0x1f || c.toNat = 0x7f then "\\u" ++ hex4 c.toNat
    else String.singleton c
  "\"" ++ String.join (s.toList.map esc) ++ "\""

/-- How a key is written when a message shows it: bare when it can be, else
as a basic string. -/
def Key.shown (k : Key) : String :=
  if !k.name.isEmpty && k.name.all isBareKeyChar then k.name else quoteBasic k.name

/-- A dotted path of keys as text. -/
def dottedNames (path : List Key) : String := ".".intercalate (path.map Key.name)

end ShapeKit.Toml
