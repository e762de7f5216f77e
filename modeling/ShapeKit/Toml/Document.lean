import ShapeKit.Toml.Lexeme
import ShapeKit.Toml.Tables

/-!
# Reading TOML documents

A value is told by its first character: a quote starts a string, `[` an
array, `{` an inline table, a sign or digit a date-time, float or integer
(tried in that order), and `t`, `f`, `i`, `n` the words `true`, `false`,
`inf`, `nan`. Anything else is reported as a string that does not start.

A document is a sequence of lines: comments, blank lines, `[header]` and
`[[header]]` lines, and key/value lines. Every line that has started is
committed; a line break that is a lone carriage return ends the lines, and
the end of the text must follow.

Arrays and inline tables may nest at most `nestingLimit - 1` deep.
-/

namespace ShapeKit.Toml

/-- The failure of a word that is not there, reported like a string that
does not start. -/
def likeString {α : Type} (r : Reader α) : Reader α :=
  expecting ["`\"`", "`'`"] (labelled "string" r)

mutual

/-- A value with its span, inside `depth` arrays and inline tables. -/
def value (depth : Nat) : Nat → Reader (Value × Span)
  | 0 => back
  | fuel + 1 => do
    let start ← here
    let v ← match ← peek with
      | none => back
      | some '"' | some '\'' => Value.string <$> string
      | some '[' => array depth fuel
      | some '{' => inlineTable depth fuel
      | some 't' => likeString (do cut (literal "true"); pure (.boolean true))
      | some 'f' => likeString (do cut (literal "false"); pure (.boolean false))
      | some 'i' => likeString (do literal "inf"; pure (.float "inf"))
      | some 'n' => likeString (do literal "nan"; pure (.float "nan"))
      | some '_' => expecting ["leading digit"] (Value.integer <$> integer)
      | some '.' => expecting ["leading digit"] (Value.float <$> float)
      | some c =>
        if c == '+' || c == '-' || c.isDigit then
          orElse (Value.datetime <$> dateTime) (orElse (Value.float <$> float) (Value.integer <$> integer))
        else likeString back
    return (v, ⟨start, ← here⟩)

/-- An array: `[`, values separated by commas (a last comma allowed), with
blanks, comments and line breaks around them, and `]`. -/
def array (depth : Nat) : Nat → Reader Value
  | 0 => back
  | fuel + 1 => do
    char '['
    let items ← cut (arrayItems depth fuel)
    expecting ["`]`"] (labelled "array" (cut (char ']')))
    return .array items

/-- The items of an array. -/
def arrayItems (depth : Nat) : Nat → Reader (List (Value × Span))
  | 0 => back
  | fuel + 1 => do
    if depth + 1 ≥ nestingLimit then failAt (← here) (some tooDeep)
    let items ← attempt do
      let items ← sepBy1 (arrayItem (depth + 1) fuel) (char ',')
      let _ ← attempt (char ',')
      return items
    gap
    return items.getD []

/-- One item of an array, with the gaps around it. -/
def arrayItem (depth : Nat) : Nat → Reader (Value × Span)
  | 0 => back
  | fuel + 1 => do
    gap
    let v ← value depth fuel
    gap
    return v

/-- An inline table: `{`, key/value pairs separated by commas, and `}`. -/
def inlineTable (depth : Nat) : Nat → Reader Value
  | 0 => back
  | fuel + 1 => do
    char '{'
    let start ← here
    let pairs ← cut (inlinePairs depth fuel)
    let entries ← match inlineEntries pairs with
      | .ok es => pure es
      | .error msg => throw { pos := start, final := true, cause := some msg }
    expecting ["`\x7d`"] (labelled "inline table" (cut (char '}')))
    return .inlineTable entries false

/-- The pairs of an inline table, with the blanks after them. -/
def inlinePairs (depth : Nat) : Nat → Reader (List (List Key × Key × Value × Span))
  | 0 => back
  | fuel + 1 => do
    if depth + 1 ≥ nestingLimit then failAt (← here) (some tooDeep)
    let pairs ← attempt (sepBy1 (inlinePair (depth + 1) fuel) (char ','))
    blanks
    return pairs.getD []

/-- One pair of an inline table: a dotted key, `=`, and a value. -/
def inlinePair (depth : Nat) : Nat → Reader (List Key × Key × Value × Span)
  | 0 => back
  | fuel + 1 => do
    let path ← key
    cut do
      expecting ["`.`", "`=`"] (char '=')
      blanks
      let (v, s) ← value depth fuel
      blanks
      return (path.dropLast, path.getLastD ⟨"", s⟩, v, s)

end

/-- Fuel enough for values nested to the limit. -/
def valueFuel : Nat := 4 * nestingLimit + 8

/-- A key/value line: the dotted key, the value and its span. -/
def keyValueLine : Reader (List Key × Value × Span) := do
  let path ← key
  cut do
    expecting ["`.`", "`=`"] (char '=')
    blanks
    let (v, s) ← value 0 valueFuel
    expecting ["newline", "`#`"] lineTrailing
    return (path, v, s)

/-- A header line, `[a.b]` or `[[a.b]]`, given to the document. -/
def headerLine (b : Builder) : Reader Builder := labelled "table header" do
  let start ← here
  if (← peekAt 1).isNone then back
  let isArray := (← peekAt 1) == some '['
  let path ← if isArray then do literal "[["; cut key else do char '['; cut key
  if isArray then expecting ["`.`", "`]]`"] (cut (literal "]]"))
  else expecting ["`.`", "`]`"] (cut (char ']'))
  let span : Span := ⟨start, ← here⟩
  expecting ["newline", "`#`"] (cut lineTrailing)
  let result := if isArray then b.arrayHeader path span else b.tableHeader path span
  match result with
  | .ok b' => return b'
  | .error msg => failAt start (some msg)

/-- A key/value line given to the document; a key defined twice is reported
at the start of the line. -/
def keyValueEntry (b : Builder) : Reader Builder := do
  let start ← here
  let (path, v, s) ← keyValueLine
  match b.keyValue path.dropLast (path.getLastD ⟨"", s⟩) v s with
  | .ok b' => return b'
  | .error msg => failAt start (some msg)

/-- One line of a document and the blanks after it. -/
def line (b : Builder) : Reader Builder := do
  let b' ← match ← peek with
    | none => back
    | some '#' => cut (do comment; lineEnding); pure b
    | some '[' => cut (headerLine b)
    | some '\n' | some '\r' => newline; pure b
    | some _ => cut (keyValueEntry b)
  blanks
  return b'

/-- The lines of a document, for at most `fuel` lines. -/
def lines : Nat → Builder → Reader Builder
  | 0, b => pure b
  | fuel + 1, b => do
    let start ← here
    match ← attempt (line b) with
    | none => return b
    | some b' => if (← here) == start then return b' else lines fuel b'

/-- A whole document: a byte order mark, lines, and the end of the text. -/
def document : Reader Builder := do
  if (← peek) == some '\uFEFF' then advance 1
  blanks
  let b ← lines ((← read).size + 1) {}
  eof
  return b

/-- Reads a document into the entries of its root table. -/
def parse (source : String) : Except Error (List (Key × Item)) :=
  let text := source.toList.toArray
  match document.runOn text with
  | .error f => .error (f.toError text.size)
  | .ok b =>
    match b.finish with
    | .ok b' => .ok b'.root.entries
    | .error msg => .error ⟨msg, none⟩

end ShapeKit.Toml
