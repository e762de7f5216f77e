import ShapeKit.Toml.Reader
import ShapeKit.Toml.Value
import ShapeKit.Decimal.Read

/-!
# TOML lexemes

Blanks, comments and line breaks; the four kinds of strings; integers in four
bases, floats and date-times; and dotted keys.

Numbers and dates are read in the order a value may be: a date-time, then a
float, then an integer, each from the same place. Digits separated by single
underscores are committed once an underscore is seen, so `1__0` fails at its
second underscore. A value that is read whole but refused (an integer beyond
64 bits, a float that overflows, a day past the end of its month) is reported
at its start, with the reason as the cause.
-/

namespace ShapeKit.Toml

/-! ## §1. Blanks, comments and line breaks -/

/-- Blanks inside a line. -/
def isBlank (c : Char) : Bool := c == ' ' || c == '\t'

/-- Characters beyond ASCII. -/
def isNonAscii (c : Char) : Bool := c.toNat ≥ 0x80

/-- Characters allowed in a comment. -/
def isCommentChar (c : Char) : Bool :=
  c == '\t' || (0x20 ≤ c.toNat && c.toNat ≤ 0x7e) || isNonAscii c

/-- Moves past blanks. -/
def blanks : Reader Unit := do
  let _ ← takeWhile isBlank

/-- A comment, up to the end of its line. -/
def comment : Reader Unit := do
  char '#'
  let _ ← takeWhile isCommentChar

/-- A line break: a line feed, or a carriage return and a line feed. -/
def newline : Reader Unit := do
  match ← peek with
  | some '\n' => advance 1
  | some '\r' => advance 1; char '\n'
  | _ => back

/-- A line break or the end of the text. -/
def lineEnding : Reader Unit := orElse newline eof

/-- The rest of a line after a value or header: blanks, a comment, then a
line break or the end. -/
def lineTrailing : Reader Unit := do
  blanks
  let _ ← attempt comment
  lineEnding

/-- Blanks and line breaks after a line break. -/
def blanksAndBreaks : Reader Unit := do
  let _ ← many (orElse newline (do let _ ← takeWhile1 isBlank))

/-- Blanks, comments and line breaks, as between array items. -/
def gapFuel : Nat → Reader Unit
  | 0 => pure ()
  | fuel + 1 => do
    let start ← here
    blanks
    match ← peek with
    | some '#' => comment; newline
    | some '\n' | some '\r' => newline
    | _ => return ()
    if (← here) != start then gapFuel fuel

/-- Blanks, comments and line breaks. -/
def gap : Reader Unit := do gapFuel ((← read).size + 1)

/-! ## §2. Strings -/

/-- Characters that stand for themselves in a basic string. -/
def isBasicChar (c : Char) : Bool :=
  isBlank c || c.toNat == 0x21 || (0x23 ≤ c.toNat && c.toNat ≤ 0x5b) ||
    (0x5d ≤ c.toNat && c.toNat ≤ 0x7e) || isNonAscii c

/-- Characters of a literal string. -/
def isLiteralChar (c : Char) : Bool :=
  c.toNat == 9 || (0x20 ≤ c.toNat && c.toNat ≤ 0x26) || (0x28 ≤ c.toNat && c.toNat ≤ 0x7e) ||
    isNonAscii c

/-- Hexadecimal digits. -/
def isHexDigit (c : Char) : Bool :=
  c.isDigit || ('a' ≤ c && c ≤ 'f') || ('A' ≤ c && c ≤ 'F')

/-- The value of a hexadecimal digit. -/
def hexDigitValue (c : Char) : Nat :=
  if c.isDigit then c.toNat - 48 else c.toLower.toNat - 87

/-- The value of digits in a base. -/
def radixValue (base : Nat) (ds : List Char) : Nat :=
  ds.foldl (fun n c => n * base + hexDigitValue c) 0

/-- The character of `n` hexadecimal digits after `\u` or `\U`: fewer
digits, or a number that is no scalar value, is refused where the digits
start. -/
def hexEscape (n : Nat) : Reader Char := do
  let start ← here
  let ds ← takeAtMost n isHexDigit
  if ds.length != n then failAt start none
  let v := radixValue 16 ds
  if v.isValidChar then return Char.ofNat v
  else failAt start (some "value is out of range")

/-- What may follow a backslash. -/
def escapeNames : List String :=
  ["`b`", "`f`", "`n`", "`r`", "`t`", "`u`", "`U`", "`\\`", "`\"`"]

/-- The character an escape stands for, after its backslash. A wrong
character is reported after it, or where it starts when it is beyond ASCII. -/
def escapeChar : Reader Char := do
  match ← peek with
  | none => back
  | some c =>
    advance 1
    match c with
    | 'b' => return '\x08'
    | 'f' => return '\x0c'
    | 'n' => return '\n'
    | 'r' => return '\r'
    | 't' => return '\t'
    | '\\' => return '\\'
    | '"' => return '"'
    | 'u' => labelled "unicode 4-digit hex code" (cut (hexEscape 4))
    | 'U' => labelled "unicode 8-digit hex code" (cut (hexEscape 8))
    | _ =>
      if isNonAscii c then moveTo ((← here) - 1)
      expecting escapeNames (labelled "escape sequence" (cut back))

/-- An escape: a backslash and what follows it. -/
def escaped : Reader Char := do
  char '\\'
  escapeChar

/-- A stretch of a basic string: plain characters or one escape. -/
def basicPiece : Reader String :=
  orElse (do return String.ofList (← takeWhile1 isBasicChar))
    (do return String.singleton (← escaped))

/-- A basic string: `"…"` with escapes. -/
def basicString : Reader String := do
  char '"'
  let pieces ← many basicPiece
  labelled "basic string" (cut (char '"'))
  return String.join pieces

/-- A literal string: `'…'`, taken as written. -/
def literalString : Reader String := labelled "literal string" do
  char '\''
  let cs ← takeWhile isLiteralChar
  cut (char '\'')
  return String.ofList cs

/-- A backslash at the end of a line in a multi-line basic string, with the
blanks and line breaks after it; several in a row count as one. -/
def lineContinuation : Reader Unit := do
  let one : Reader Unit := do
    char '\\'
    blanks
    newline
    blanksAndBreaks
  one
  let _ ← many one

/-- A stretch of a multi-line basic string: plain characters, a line
continuation, an escape, or a line break. -/
def multiBasicPiece : Reader String :=
  orElse (do return String.ofList (← takeWhile1 isBasicChar)) <|
  orElse (do lineContinuation; return "") <|
  orElse (do return String.singleton (← escaped)) <|
  (do newline; return "\n")

/-- One or two quote characters followed by what `after` reads. -/
def quoteRun (q : Char) (after : Reader Unit) : Reader String :=
  orElse (do char q; char q; lookAhead after; return String.ofList [q, q])
    (do char q; lookAhead after; return String.singleton q)

/-- Quote runs inside a multi-line basic string, each followed by more of
the string. A run not followed by any is dropped and ends the body. -/
def multiBasicRuns : Nat → Reader String
  | 0 => pure ""
  | fuel + 1 => do
    match ← attempt (quoteRun '"' (do let _ ← satisfy (· != '"'))) with
    | none => return ""
    | some q =>
      match ← attempt multiBasicPiece with
      | none => return ""
      | some p =>
        let more ← many multiBasicPiece
        return q ++ p ++ String.join more ++ (← multiBasicRuns fuel)

/-- The body of a multi-line basic string, with the quotes just before the
closing delimiter. -/
def multiBasicBody : Reader String := do
  let first ← many multiBasicPiece
  let runs ← multiBasicRuns ((← read).size + 1)
  let last ← attempt (quoteRun '"' (literal "\"\"\""))
  return String.join first ++ runs ++ last.getD ""

/-- A multi-line basic string: `"""…"""`, a line break right after the
opening delimiter left out. -/
def multiBasicString : Reader String := labelled "multiline basic string" do
  literal "\"\"\""
  let _ ← attempt newline
  let s ← cut multiBasicBody
  cut (literal "\"\"\"")
  return s

/-- A stretch of a multi-line literal string: one character or a line break. -/
def multiLiteralPiece : Reader Unit :=
  orElse (do let _ ← satisfy isLiteralChar) newline

/-- Quote runs inside a multi-line literal string, each followed by more of
the string; a run not followed by any is left unread. -/
def multiLiteralRuns : Nat → Reader Unit
  | 0 => pure ()
  | fuel + 1 => do
    let again ← attempt do
      let _ ← quoteRun '\'' (do let _ ← satisfy (· != '\''))
      multiLiteralPiece
      let _ ← many multiLiteralPiece
    if again.isSome then multiLiteralRuns fuel

/-- Replaces each carriage return and line feed by a line feed. -/
def unixLines : List Char → List Char
  | '\r' :: '\n' :: rest => '\n' :: unixLines rest
  | c :: rest => c :: unixLines rest
  | [] => []

/-- The body of a multi-line literal string, as written, with its line
breaks as line feeds. -/
def multiLiteralBody : Reader String := do
  let start ← here
  let _ ← many multiLiteralPiece
  multiLiteralRuns ((← read).size + 1)
  let _ ← attempt (quoteRun '\'' (literal "'''"))
  return String.ofList (unixLines (← textFrom start).toList)

/-- A multi-line literal string: `'''…'''`, a line break right after the
opening delimiter left out. -/
def multiLiteralString : Reader String := labelled "multiline literal string" do
  literal "'''"
  let _ ← attempt newline
  let s ← cut multiLiteralBody
  cut (literal "'''")
  return s

/-- A string of any of the four kinds. -/
def string : Reader String :=
  orElse multiBasicString (orElse basicString (orElse multiLiteralString literalString))

/-! ## §3. Numbers -/

/-- The least 64-bit integer, `-2^63`. -/
def minInteger : Int := -9223372036854775808

/-- The greatest 64-bit integer, `2^63 - 1`. -/
def maxInteger : Int := 9223372036854775807

/-- The cause of an integer above the 64-bit range. -/
def tooLarge : String := "number too large to fit in target type"

/-- The cause of an integer below the 64-bit range. -/
def tooSmall : String := "number too small to fit in target type"

/-- More digits, with single underscores between them. -/
def digitTail (isDigit : Char → Bool) : Reader Unit := do
  let _ ← many (orElse (do let _ ← satisfy isDigit)
    (do char '_'; expecting ["digit"] (cut (do let _ ← satisfy isDigit))))

/-- An optional sign. -/
def sign : Reader (Option Char) := attempt (satisfy fun c => c == '+' || c == '-')

/-- A decimal integer as written: a sign, then `0` or digits not starting
with `0`. -/
def decimalInteger : Reader String := labelled "integer" do
  let start ← here
  let _ ← sign
  orElse (do let _ ← satisfy fun c => '1' ≤ c && c ≤ '9'; digitTail Char.isDigit)
    (do let _ ← satisfy Char.isDigit)
  textFrom start

/-- Digits that may start with `0`. -/
def digitRun : Reader Unit := do
  let _ ← satisfy Char.isDigit
  digitTail Char.isDigit

/-- A prefixed integer: `0x`, `0o` or `0b` and its digits. -/
def prefixedInteger (pre name : String) (isDigit : Char → Bool) : Reader String :=
  labelled name do
    literal pre
    cut do
      let start ← here
      let _ ← satisfy isDigit
      digitTail isDigit
      textFrom start

/-- A prefixed integer's value, refused at its start when it exceeds 64 bits. -/
def prefixedValue (pre name : String) (base : Nat) (isDigit : Char → Bool) : Reader Int := cut do
  let start ← here
  let ds ← prefixedInteger pre name isDigit
  let v : Int := radixValue base (ds.toList.filter (· != '_'))
  if v ≤ maxInteger then return v else failAt start (some tooLarge)

/-- The value of a signed decimal text without underscores. -/
def signedValue (text : String) : Int :=
  match text.toList.filter (· != '_') with
  | '-' :: ds => -(Decimal.digitsValue ds : Int)
  | '+' :: ds => Decimal.digitsValue ds
  | ds => Decimal.digitsValue ds

/-- An integer in any base. -/
def integer : Reader Int := do
  match ← peek, ← peekAt 1 with
  | some '0', some 'x' => prefixedValue "0x" "hexadecimal integer" 16 isHexDigit
  | some '0', some 'o' => prefixedValue "0o" "octal integer" 8 fun c => '0' ≤ c && c ≤ '7'
  | some '0', some 'b' => prefixedValue "0b" "binary integer" 2 fun c => c == '0' || c == '1'
  | _, _ =>
    let start ← here
    let v := signedValue (← decimalInteger)
    if v > maxInteger then throw { pos := start, final := true, cause := some tooLarge }
    else if v < minInteger then throw { pos := start, final := true, cause := some tooSmall }
    else return v

/-- The exponent of a float: `e`, a sign, digits. -/
def exponentPart : Reader Unit := do
  let _ ← satisfy fun c => c == 'e' || c == 'E'
  let _ ← sign
  cut digitRun

/-- The fraction of a float: a point and digits. -/
def fractionPart : Reader Unit := do
  char '.'
  expecting ["digit"] (cut digitRun)

/-- Whether a float's text stands for positive infinity. -/
def overflows (text : String) : Bool :=
  match Decimal.readFloat? text with
  | some f => f.isInf && f > 0
  | none => false

/-- `inf` or `nan` with an optional sign. -/
def specialFloat : Reader String := do
  let s ← sign
  let w ← orElse (do literal "inf"; pure "inf") (do literal "nan"; pure "nan")
  return (s.map String.singleton).getD "" ++ w

/-- A float, as its text without underscores: an integer part and an
exponent or a fraction (and maybe an exponent), or a special value. A float
too large for 64 bits is refused at its start. -/
def float : Reader String := labelled "floating-point number" <|
  orElse
    (do
      let start ← here
      let _ ← decimalInteger
      orElse exponentPart (do fractionPart; let _ ← attempt exponentPart)
      let text := String.ofList ((← textFrom start).toList.filter (· != '_'))
      if overflows text then throw { pos := start, final := true } else return text)
    specialFloat

/-! ## §4. Dates and times -/

/-- The cause of a date or time field out of its range. -/
def outOfRange : String := "value is out of range"

/-- `n` digits in a range, refused where they start when outside it. -/
def rangedDigits (n lo hi : Nat) : Reader Nat := do
  let start ← here
  let v := Decimal.digitsValue (← takeBetween n n Char.isDigit)
  if lo ≤ v && v ≤ hi then return v else failAt start (some outOfRange)

/-- Whether a year is a leap year. -/
def isLeapYear (y : Nat) : Bool := y % 4 == 0 && (y % 100 != 0 || y % 400 == 0)

/-- The number of days of a month. -/
def daysInMonth (y m : Nat) : Nat :=
  if m == 2 then (if isLeapYear y then 29 else 28)
  else if m == 4 || m == 6 || m == 9 || m == 11 then 30
  else 31

/-- A date: year, month and day. -/
def fullDate : Reader Unit := do
  let year := Decimal.digitsValue (← takeBetween 4 4 Char.isDigit)
  char '-'
  let month ← cut (rangedDigits 2 1 12)
  cut (char '-')
  let dayStart ← here
  let day ← cut (rangedDigits 2 1 31)
  if daysInMonth year month < day then
    throw { pos := dayStart, final := true, cause := some outOfRange }

/-- A time of day: hours, minutes, seconds and a fraction. -/
def partialTime : Reader Unit := do
  let _ ← rangedDigits 2 0 23
  char ':'
  cut do
    let _ ← rangedDigits 2 0 59
    char ':'
    let _ ← rangedDigits 2 0 60
    let _ ← attempt (do char '.'; let _ ← takeWhile1 Char.isDigit)

/-- A time offset: `Z`, or a sign, hours and minutes. -/
def timeOffset : Reader Unit := labelled "time offset" <|
  orElse (do let _ ← satisfy fun c => c == 'Z' || c == 'z')
    (do
      let _ ← satisfy fun c => c == '+' || c == '-'
      cut do
        let _ ← rangedDigits 2 0 23
        char ':'
        let _ ← rangedDigits 2 0 59)

/-- A date-time, a date, or a time, as written. -/
def dateTime : Reader String := do
  let start ← here
  orElse
    (labelled "date-time" do
      fullDate
      let _ ← attempt do
        let _ ← satisfy fun c => c == 'T' || c == 't' || c == ' '
        partialTime
        let _ ← attempt timeOffset)
    (labelled "time" partialTime)
  textFrom start

/-! ## §5. Keys -/

/-- The most keys in a dotted key, and the deepest nesting of values. -/
def nestingLimit : Nat := 80

/-- The cause of a key or value nested too deep. -/
def tooDeep : String := "recursion limit exceeded"

/-- One part of a key: a basic string, a literal string, or a bare word. -/
def simpleKey : Reader Key := do
  let start ← here
  let name ← match ← peek with
    | some '"' => basicString
    | some '\'' => literalString
    | _ => do pure (String.ofList (← takeWhile1 isBareKeyChar))
  return ⟨name, ⟨start, ← here⟩⟩

/-- A dotted key, with blanks around its parts. -/
def key : Reader (List Key) := do
  let start ← here
  let part : Reader Key := do
    blanks
    let k ← simpleKey
    blanks
    return k
  let ks ← labelled "key" (sepBy1 part (char '.'))
  if ks.length < nestingLimit then return ks else failAt start (some tooDeep)

end ShapeKit.Toml
