/-!
# Regular expressions: mistakes

A pattern can be wrong in three ways: it does not parse, it nests groups and
classes too deeply, or it asks for something its flags forbid (a class that could
match a byte that is not UTF-8, a Unicode class in byte mode, a property with no
data). Each mistake is reported with the stretch of the pattern it concerns, and
the message draws that stretch under the pattern with carets:

    regex parse error:
        a{2,1}
         ^^^^^
    error: invalid repetition count range, the start must be <= the end

A pattern of several lines is framed by lines of `~`, its lines are numbered,
and a stretch that spans lines is described by its line and column bounds.
-/

namespace ShapeKit.Regex

/-! ## §1. Spans and errors -/

/-- A stretch of the pattern by character index, end exclusive. -/
structure Span where
  start : Nat
  stop : Nat
deriving DecidableEq, Repr, Inhabited

/-- What is wrong with a pattern. -/
inductive ErrorKind where
  | classEscapeInvalid | classRangeInvalid | classRangeLiteral | classUnclosed
  | decimalInvalid | escapeHexEmpty | escapeHexInvalid | escapeHexInvalidDigit
  | escapeUnexpectedEof | escapeUnrecognized | flagDanglingNegation | flagDuplicate
  | flagRepeatedNegation | flagUnexpectedEof | flagUnrecognized | groupNameDuplicate
  | groupNameEmpty | groupNameInvalid | groupNameUnexpectedEof | groupUnclosed | groupUnopened
  | repetitionCountInvalid | repetitionCountDecimalEmpty | repetitionCountUnclosed
  | repetitionMissing | specialWordBoundaryUnclosed | specialWordBoundaryUnrecognized
  | specialWordOrRepetitionUnexpectedEof | unicodeClassInvalid | unsupportedBackreference
  | unsupportedLookAround | nestLimitExceeded (limit : Nat) | unicodePropertyNotFound
  | unicodePropertyValueNotFound | unicodeNotAllowed | invalidUtf8 | exhausted
deriving DecidableEq, Repr

/-- The description of a mistake. -/
def ErrorKind.text : ErrorKind → String
  | .classEscapeInvalid => "invalid escape sequence found in character class"
  | .classRangeInvalid => "invalid character class range, the start must be <= the end"
  | .classRangeLiteral => "invalid range boundary, must be a literal"
  | .classUnclosed => "unclosed character class"
  | .decimalInvalid => "decimal literal invalid"
  | .escapeHexEmpty => "hexadecimal literal empty"
  | .escapeHexInvalid => "hexadecimal literal is not a Unicode scalar value"
  | .escapeHexInvalidDigit => "invalid hexadecimal digit"
  | .escapeUnexpectedEof => "incomplete escape sequence, reached end of pattern prematurely"
  | .escapeUnrecognized => "unrecognized escape sequence"
  | .flagDanglingNegation => "dangling flag negation operator"
  | .flagDuplicate => "duplicate flag"
  | .flagRepeatedNegation => "flag negation operator repeated"
  | .flagUnexpectedEof => "expected flag but got end of regex"
  | .flagUnrecognized => "unrecognized flag"
  | .groupNameDuplicate => "duplicate capture group name"
  | .groupNameEmpty => "empty capture group name"
  | .groupNameInvalid => "invalid capture group character"
  | .groupNameUnexpectedEof => "unclosed capture group name"
  | .groupUnclosed => "unclosed group"
  | .groupUnopened => "unopened group"
  | .repetitionCountInvalid => "invalid repetition count range, the start must be <= the end"
  | .repetitionCountDecimalEmpty => "repetition quantifier expects a valid decimal"
  | .repetitionCountUnclosed => "unclosed counted repetition"
  | .repetitionMissing => "repetition operator missing expression"
  | .specialWordBoundaryUnclosed =>
    "special word boundary assertion is either unclosed or contains an invalid character"
  | .specialWordBoundaryUnrecognized =>
    "unrecognized special word boundary assertion, valid choices are: start, end, start-half or end-half"
  | .specialWordOrRepetitionUnexpectedEof =>
    "found either the beginning of a special word boundary or a bounded repetition on a \\b with an opening brace, but no closing brace"
  | .unicodeClassInvalid => "invalid Unicode character class"
  | .unsupportedBackreference => "backreferences are not supported"
  | .unsupportedLookAround => "look-around, including look-ahead and look-behind, is not supported"
  | .nestLimitExceeded limit =>
    s!"exceed the maximum number of nested parentheses/brackets ({limit})"
  | .unicodePropertyNotFound => "Unicode property not found"
  | .unicodePropertyValueNotFound => "Unicode property value not found"
  | .unicodeNotAllowed => "Unicode not allowed here"
  | .invalidUtf8 => "pattern can match invalid UTF-8"
  | .exhausted => "pattern too complex"

/-- A mistake in a pattern: what, where, and for a repeated name or flag where
it first stood. -/
structure Error where
  kind : ErrorKind
  span : Span
  aux : Option Span := none
deriving Repr

/-! ## §2. Drawing a mistake under its pattern -/

/-- Line and column, both from 1, of a character index. -/
def lineCol (src : List Char) (i : Nat) : Nat × Nat :=
  let before := src.take i
  (1 + before.count '\n', 1 + (before.reverse.takeWhile (· != '\n')).length)

/-- The lines of a text: pieces between line feeds, without a final empty piece,
and without the carriage return before a line feed. -/
def textLines (src : List Char) : List (List Char) :=
  let pieces := src.splitOn '\n'
  let endsBreak := src.getLast? == some '\n'
  let kept := if endsBreak then pieces.dropLast else pieces
  let n := kept.length
  kept.zipIdx.map fun (l, i) =>
    if (i + 1 < n || endsBreak) && l.getLast? == some '\r' then l.dropLast else l

/-- `n` copies of a character. -/
def chars (n : Nat) (c : Char) : String := String.ofList (List.replicate n c)

/-- Whether a span starts and ends on one line. -/
def oneLine (src : List Char) (s : Span) : Bool := (lineCol src s.start).1 == (lineCol src s.stop).1

/-- The caret line under one line of the pattern for the spans on it. -/
def caretLine (src : List Char) (pad : Nat) (spans : List Span) : String :=
  let step (acc : String × Nat) (s : Span) : String × Nat :=
    let (text, pos) := acc
    let c0 := (lineCol src s.start).2
    let c1 := (lineCol src s.stop).2
    let gap := c0 - 1 - pos
    let len := max 1 (c1 - c0)
    (text ++ chars gap ' ' ++ chars len '^', pos + gap + len)
  (spans.foldl step (chars pad ' ', 0)).1

/-- The message of a mistake in `pattern`: the pattern with the mistake's
stretches marked, then the description. -/
def Error.message (e : Error) (pattern : String) : String :=
  let src := pattern.toList
  let lines := textLines src
  let lineCount := lines.length + (if src.getLast? == some '\n' then 1 else 0)
  let width := if lineCount ≤ 1 then 0 else (toString lineCount).length
  let spans := (e.span :: e.aux.toList).mergeSort fun a b =>
    a.start < b.start || (a.start == b.start && a.stop ≤ b.stop)
  let single := spans.filter (oneLine src)
  let multi := spans.filter fun s => !oneLine src s
  let pad := if width == 0 then 4 else 2 + width
  let notated := lines.zipIdx.foldl (fun acc (l, i) =>
    let number := toString (i + 1)
    let lead := if width == 0 then "    " else chars (width - number.length) ' ' ++ number ++ ": "
    let here := single.filter fun s => (lineCol src s.start).1 == i + 1
    let marks := if here.isEmpty then "" else caretLine src pad here ++ "\n"
    acc ++ lead ++ String.ofList l ++ "\n" ++ marks) ""
  if src.contains '\n' then
    let divider := chars 79 '~'
    let notes := multi.map fun s =>
      let (l0, c0) := lineCol src s.start
      let (l1, c1) := lineCol src s.stop
      s!"on line {l0} (column {c0}) through line {l1} (column {c1 - 1})"
    let noteText := if notes.isEmpty then "" else "\n".intercalate notes ++ "\n"
    "regex parse error:\n" ++ divider ++ "\n" ++ notated ++ divider ++ "\n" ++ noteText ++
      "error: " ++ e.kind.text
  else
    "regex parse error:\n" ++ notated ++ "error: " ++ e.kind.text

end ShapeKit.Regex
