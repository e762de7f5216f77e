import ShapeKit.Json.Writer
import ShapeKit.Unicode.Property

/-!
# Decoding messages

When a JSON value does not have the form a reader of a record expects, the
message names what was found and what was expected:
`invalid type: integer `5`, expected a string`. This module writes the "what
was found" part: `null`, a boolean or number with its text, a string in
escaped quotes, or just `sequence` or `map` for arrays and objects.
-/

namespace ShapeKit.Json

/-- Lowercase hexadecimal text of a number. -/
def hexText (n : Nat) : String := String.ofList (Nat.toDigits 16 n)

/-- Whether a message shows a character as it is: every character but
separators, controls, format characters, surrogates, private-use and
unassigned code points, except the space. -/
def isPrintable (c : Char) : Bool :=
  c == ' ' ||
    match Unicode.categoryOf c.toNat with
    | .zs | .zl | .zp | .cc | .cf | .cs | .co | .cn => false
    | _ => true

/-- A string in double quotes as a message shows a string it quotes: quotes,
backslashes and the common control characters get a backslash escape, and
characters that extend a grapheme or are not printable are written
`\u{hex}`. -/
def debugQuote (s : String) : String :=
  let esc (c : Char) : List Char :=
    if c = '"' then ['\\', '"']
    else if c = '\\' then ['\\', '\\']
    else if c = '\n' then ['\\', 'n']
    else if c = '\r' then ['\\', 'r']
    else if c = '\t' then ['\\', 't']
    else if c = '\x00' then ['\\', '0']
    else if Unicode.isGraphemeExtend c || !isPrintable c then
      ("\\u\x7b" ++ hexText c.toNat ++ "\x7d").toList
    else [c]
  String.ofList ('"' :: (s.toList.flatMap esc ++ ['"']))

/-- What a message calls a value it did not expect. -/
def unexpectedText : Node → String
  | .null => "null"
  | .bool b => "boolean `" ++ (if b then "true" else "false") ++ "`"
  | .num (.float f) => s!"floating point `{Decimal.jsonText f}`"
  | .num n => s!"integer `{n.text}`"
  | .str s => s!"string {debugQuote s}"
  | .arr _ => "sequence"
  | .obj _ => "map"

/-- `invalid type: <found>, expected <what>`. -/
def invalidType (n : Node) (expected : String) : String :=
  s!"invalid type: {unexpectedText n}, expected {expected}"

end ShapeKit.Json
