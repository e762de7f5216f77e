/-!
# TOML errors and how they are shown

An error is a message and, usually, the span of the text it is about. Spans
count characters; the diagram under which a message is shown counts bytes of
the UTF-8 text where the layout of the line depends on them:

```
TOML parse error at line 1, column 12
  |
1 | severity = 1e400
  |            ^
invalid floating-point number
```

The line and column are found from the byte offset of the span's start. The
column counts the characters of the line up to and including the byte at that
offset, less one, when those bytes end on a character boundary, and counts
bytes otherwise; an offset at the very end is placed one beyond the last byte.
The carets cover the span's bytes, cut at the end of the line's bytes past the
column, and there is always at least one.
-/

namespace ShapeKit.Toml

/-- A range of character positions in a document, the end excluded. -/
structure Span where
  start : Nat
  stop : Nat
deriving DecidableEq, Repr

/-- An error: what is wrong, and the text it is about when that is known. -/
structure Error where
  message : String
  span : Option Span
deriving DecidableEq, Repr

/-- The byte offset of a character position. -/
def byteOffset (text : List Char) (p : Nat) : Nat :=
  (text.take p).foldr (fun c n => c.utf8Size + n) 0

/-- Whether a byte continues a UTF-8 sequence rather than starting one. -/
def isContinuation (b : UInt8) : Bool := b &&& 0xC0 == 0x80

/-- The line and column (both from 0) of a byte offset. The offset is first
moved back onto the last byte, and the distance moved is added to the column. -/
def location (bytes : List UInt8) (index : Nat) : Nat × Nat :=
  if bytes.isEmpty then (0, index)
  else
    let safe := min index (bytes.length - 1)
    let extra := index - safe
    let lineStart := match (bytes.take safe).reverse.idxOf? 10 with
      | some k => safe - k
      | none => 0
    let line := (bytes.take lineStart).count 10
    let slice := (bytes.drop lineStart).take (safe + 1 - lineStart)
    let whole := match bytes[safe + 1]? with
      | some b => !isContinuation b
      | none => true
    let column :=
      if whole then (slice.filter fun b => !isContinuation b).length - 1
      else safe - lineStart
    (line, column + extra)

/-- Spaces. -/
def spaces (n : Nat) : String := String.ofList (List.replicate n ' ')

/-- The text of an error in a document: the diagram when the error has a
span, then the message on a line of its own. -/
def Error.render (e : Error) (source : String) : String :=
  match e.span with
  | none => e.message ++ "\n"
  | some span =>
    let text := source.toList
    let start := byteOffset text span.start
    let stop := byteOffset text span.stop
    let (line, column) := location source.toUTF8.toList start
    let lineNum := line + 1
    let gutter := (toString lineNum).length
    let content := ((source.splitOn "\n")[line]?).getD ""
    let width := min (stop - start) (content.utf8ByteSize - column)
    s!"TOML parse error at line {lineNum}, column {column + 1}\n" ++
      spaces (gutter + 1) ++ "|\n" ++
      s!"{lineNum} | {content}\n" ++
      spaces (gutter + 1) ++ "|" ++ spaces (column + 1) ++
      String.ofList (List.replicate (max 1 width) '^') ++ "\n" ++
      e.message ++ "\n"

end ShapeKit.Toml
