import ShapeKit.Json.Value
import ShapeKit.Decimal.Shortest

/-!
# Writing JSON text

Two layouts of one value: `Node.compact`, with no blanks at all, and
`Node.pretty`, with every item and entry on a line of its own, indented by two
spaces per level, a blank after each colon, and `[]` and `{}` for the empty
containers. Object entries are written in their stored order.

Strings escape the quote, the backslash and the control characters below
U+0020 (`\b`, `\t`, `\n`, `\f`, `\r` by name, the others as `\u00xx` with
lowercase hex); every other character is written as it is. Integers are
written exactly; doubles by `Decimal.jsonText`.
-/

namespace ShapeKit.Json

/-- Lowercase hexadecimal digit. -/
def hexDigit (n : Nat) : Char :=
  if n < 10 then Char.ofNat ('0'.toNat + n) else Char.ofNat ('a'.toNat + n - 10)

/-- The escaped form of one character inside a JSON string. -/
def escapeChar (c : Char) : List Char :=
  if c = '"' then ['\\', '"']
  else if c = '\\' then ['\\', '\\']
  else if c = '\n' then ['\\', 'n']
  else if c = '\r' then ['\\', 'r']
  else if c = '\t' then ['\\', 't']
  else if c = '\x08' then ['\\', 'b']
  else if c = '\x0c' then ['\\', 'f']
  else if c.toNat < 0x20 then ['\\', 'u', '0', '0', hexDigit (c.toNat / 16), hexDigit (c.toNat % 16)]
  else [c]

/-- A string as a quoted JSON string. -/
def quote (s : String) : String :=
  String.ofList ('"' :: (s.toList.flatMap escapeChar ++ ['"']))

/-- The text of a number. -/
def Number.text : Number → String
  | .nat n => toString n
  | .neg n => toString n
  | .float f => Decimal.jsonText f

mutual
/-- Compact text: no blanks between tokens. -/
def Node.compact : Node → String
  | .null => "null"
  | .bool b => if b then "true" else "false"
  | .num n => n.text
  | .str s => quote s
  | .arr xs => "[" ++ compactItems xs ++ "]"
  | .obj es => "\x7b" ++ compactEntries es ++ "\x7d"

/-- Items separated by commas. -/
def compactItems : List Node → String
  | [] => ""
  | [x] => x.compact
  | x :: xs => x.compact ++ "," ++ compactItems xs

/-- Entries separated by commas. -/
def compactEntries : List (String × Node) → String
  | [] => ""
  | [(k, v)] => quote k ++ ":" ++ v.compact
  | (k, v) :: es => quote k ++ ":" ++ v.compact ++ "," ++ compactEntries es
end

/-- Two spaces per level. -/
def indentText (level : Nat) : String := String.ofList (List.replicate (2 * level) ' ')

mutual
/-- Pretty text at a nesting level: one item or entry per line. -/
def Node.prettyAt (level : Nat) : Node → String
  | .arr [] => "[]"
  | .obj [] => "\x7b\x7d"
  | .arr xs => "[\n" ++ prettyItems (level + 1) xs ++ "\n" ++ indentText level ++ "]"
  | .obj es => "\x7b\n" ++ prettyEntries (level + 1) es ++ "\n" ++ indentText level ++ "\x7d"
  | n => n.compact

/-- Items on lines of their own, separated by commas. -/
def prettyItems (level : Nat) : List Node → String
  | [] => ""
  | [x] => indentText level ++ x.prettyAt level
  | x :: xs => indentText level ++ x.prettyAt level ++ ",\n" ++ prettyItems level xs

/-- Entries on lines of their own, separated by commas. -/
def prettyEntries (level : Nat) : List (String × Node) → String
  | [] => ""
  | [(k, v)] => indentText level ++ quote k ++ ": " ++ v.prettyAt level
  | (k, v) :: es => indentText level ++ quote k ++ ": " ++ v.prettyAt level ++ ",\n" ++ prettyEntries level es
end

/-- Pretty text of a value, without a final line feed. -/
def Node.pretty (n : Node) : String := n.prettyAt 0

end ShapeKit.Json
