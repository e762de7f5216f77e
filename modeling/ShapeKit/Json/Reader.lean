import ShapeKit.Json.Value

/-!
# Reading JSON text

`Json.read` turns JSON text into a `Node`, or into a `ReadError` that names
what went wrong and where, as `line` and `column`: the line counts from one,
the column counts the bytes from the start of the line.

Rules of the reader, beyond the JSON grammar:

* integers that fit 64 unsigned bits, and negative integers that fit 64 signed
  bits, stay exact; every other number becomes a double, computed from its
  first 19 or 20 significant digits by one multiplication or division by an
  exact power of ten (`-0` is the double `-0.0`);
* a repeated key replaces the earlier value at the earlier key's place;
* nesting deeper than 127 arrays and objects is refused;
* a position is taken either at the character just read or one byte past the
  next one, as the error's kind dictates.
-/

namespace ShapeKit.Json

/-! ## §1. Errors -/

/-- What went wrong while reading JSON text. -/
inductive ReadErrorCode where
  | eofWhileParsingList
  | eofWhileParsingObject
  | eofWhileParsingString
  | eofWhileParsingValue
  | expectedColon
  | expectedListCommaOrEnd
  | expectedObjectCommaOrEnd
  | expectedSomeIdent
  | expectedSomeValue
  | invalidEscape
  | invalidNumber
  | numberOutOfRange
  | controlCharacterWhileParsingString
  | keyMustBeAString
  | loneLeadingSurrogateInHexEscape
  | trailingComma
  | trailingCharacters
  | unexpectedEndOfHexEscape
  | recursionLimitExceeded
  | exhausted
deriving DecidableEq, Repr

/-- The text of each error kind. -/
def ReadErrorCode.text : ReadErrorCode → String
  | .eofWhileParsingList => "EOF while parsing a list"
  | .eofWhileParsingObject => "EOF while parsing an object"
  | .eofWhileParsingString => "EOF while parsing a string"
  | .eofWhileParsingValue => "EOF while parsing a value"
  | .expectedColon => "expected `:`"
  | .expectedListCommaOrEnd => "expected `,` or `]`"
  | .expectedObjectCommaOrEnd => "expected `,` or `\x7d`"
  | .expectedSomeIdent => "expected ident"
  | .expectedSomeValue => "expected value"
  | .invalidEscape => "invalid escape"
  | .invalidNumber => "invalid number"
  | .numberOutOfRange => "number out of range"
  | .controlCharacterWhileParsingString =>
    "control character (\\u0000-\\u001F) found while parsing a string"
  | .keyMustBeAString => "key must be a string"
  | .loneLeadingSurrogateInHexEscape => "lone leading surrogate in hex escape"
  | .trailingComma => "trailing comma"
  | .trailingCharacters => "trailing characters"
  | .unexpectedEndOfHexEscape => "unexpected end of hex escape"
  | .recursionLimitExceeded => "recursion limit exceeded"
  | .exhausted => "input exhausted"

/-- A reading error with its place. -/
structure ReadError where
  code : ReadErrorCode
  line : Nat
  column : Nat
deriving DecidableEq, Repr

/-- `<what> at line <l> column <c>`. -/
def ReadError.message (e : ReadError) : String :=
  s!"{e.code.text} at line {e.line} column {e.column}"

/-- Line and column of a byte offset into a text: the line is one more than the
number of line feeds before the offset, the column the number of bytes between
the last of them and the offset. -/
def positionOf (src : List Char) (target : Nat) : Nat × Nat :=
  let rec go : List Char → Nat → Nat → Nat → Nat × Nat
    | [], _, line, lineStart => (line, target - lineStart)
    | c :: rest, offset, line, lineStart =>
      if offset < target then
        if c = '\n' then go rest (offset + 1) (line + 1) (offset + 1)
        else go rest (offset + c.utf8Size) line lineStart
      else (line, target - lineStart)
  go src 0 1 0

/-! ## §2. The cursor -/

/-- The unread rest of the text and the number of bytes already read. -/
structure Cursor where
  rest : List Char
  index : Nat

namespace Cursor

/-- Reads one character. -/
def bump (c : Cursor) : Cursor :=
  match c.rest with
  | [] => c
  | x :: xs => ⟨xs, c.index + x.utf8Size⟩

/-- Skips blanks: space, tab, line feed and carriage return. -/
def skipBlank (c : Cursor) : Cursor :=
  let rec go : List Char → Nat → Cursor
    | x :: xs, i => if x = ' ' ∨ x = '\n' ∨ x = '\t' ∨ x = '\r' then go xs (i + 1) else ⟨x :: xs, i⟩
    | [], i => ⟨[], i⟩
  go c.rest c.index

end Cursor

/-- A failure: its kind and the byte offset it is reported at. -/
abbrev Failure := ReadErrorCode × Nat

/-- The outcome of a reading step. -/
abbrev Step (α : Type) := Except Failure (α × Cursor)

/-- The context of one reading: the total length of the text in bytes. -/
structure Source where
  total : Nat

/-- A failure reported at the character just read. -/
def failAt {α : Type} (code : ReadErrorCode) (c : Cursor) : Except Failure α :=
  .error (code, c.index)

/-- A failure reported just past the first byte of the next character: the
byte that showed the mistake has been read, the rest of its character not. -/
def failPast {α : Type} (code : ReadErrorCode) (c : Cursor) : Except Failure α :=
  .error (code, if c.rest.isEmpty then c.index else c.index + 1)

/-- A failure reported one byte past the next character's start. -/
def failAhead {α : Type} (src : Source) (code : ReadErrorCode) (c : Cursor) : Except Failure α :=
  .error (code, min src.total (c.index + 1))

/-! ## §3. Literals and numbers -/

/-- Reads the rest of a literal word such as `ull` after `n`. -/
def readWord (word : List Char) (c : Cursor) : Except Failure Cursor :=
  match word with
  | [] => .ok c
  | w :: ws =>
    match c.rest with
    | [] => failAt .eofWhileParsingValue c
    | x :: _ => if x = w then readWord ws c.bump else failPast .expectedSomeIdent c

/-- Whether a character is an ASCII digit. -/
def isDigitChar (c : Char) : Bool := '0' ≤ c && c ≤ '9'

/-- The value of an ASCII digit. -/
def digitValue (c : Char) : Nat := c.toNat - '0'.toNat

/-- `10^k` as a double, correctly rounded. -/
def powerOfTen (k : Nat) : Float := Float.ofScientific 1 false k

/-- The largest 64-bit unsigned integer. -/
def maxU64 : Nat := Nat.pow 2 64 - 1

/-- Whether `a * 10 + d` passes `limit`. -/
def overflows (a d limit : Nat) : Bool :=
  a ≥ limit / 10 && (a > limit / 10 || d > limit % 10)

/-- Clamps an integer to the 32-bit signed range. -/
def clampI32 (x : Int) : Int := max (-(Nat.pow 2 31 : Int)) (min ((Nat.pow 2 31 : Int) - 1) x)

/-- Builds the double `± significand · 10^exponent` by one multiplication or
division by a power of ten up to `10^308`; an exponent further out first
divides by `10^308` while the value is not zero. Overflow to infinity is an
error. -/
def floatFromParts (positive : Bool) (significand : Nat) (exponent : Int) (c : Cursor) :
    Except Failure Float :=
  let rec go : Nat → Float → Int → Except Failure Float
    | 0, f, _ => .ok f
    | fuel + 1, f, e =>
      if e.natAbs ≤ 308 then
        if e ≥ 0 then
          let g := f * powerOfTen e.natAbs
          if g.isInf then failAt .numberOutOfRange c else .ok g
        else .ok (f / powerOfTen e.natAbs)
      else if f == 0 then .ok f
      else if e ≥ 0 then failAt .numberOutOfRange c
      else go fuel (f / powerOfTen 308) (e + 308)
  match go 8 (Float.ofNat significand) exponent with
  | .ok f => .ok (if positive then f else -f)
  | .error e => .error e

/-- Reads the digits of an exponent after `e` or `E`. -/
def readExponent (positive : Bool) (significand : Nat) (start : Int) (c0 : Cursor) :
    Except Failure (Float × Cursor) :=
  let c := c0.bump
  let (positiveExp, c) :=
    match c.rest with
    | '+' :: _ => (true, c.bump)
    | '-' :: _ => (false, c.bump)
    | _ => (true, c)
  match c.rest with
  | [] => failAt .eofWhileParsingValue c
  | x :: _ =>
    if !isDigitChar x then failPast .invalidNumber c
    else
      -- the exponent's value and digit count, or the count of digits read
      -- when the next one takes it past 32 bits
      let rec digits : List Char → Nat → Nat → Except Nat (Nat × Nat)
        | y :: ys, e, n =>
          if isDigitChar y then
            if overflows e (digitValue y) (Nat.pow 2 31 - 1) then .error (n + 1)
            else digits ys (e * 10 + digitValue y) (n + 1)
          else .ok (e, n)
        | [], e, n => .ok (e, n)
      let c1 := c.bump
      match digits c1.rest (digitValue x) 0 with
      | .ok (e, n) =>
        let c2 := (List.range n).foldl (fun k _ => k.bump) c1
        let final := if positiveExp then clampI32 (start + e) else clampI32 (start - e)
        match floatFromParts positive significand final c2 with
        | .ok f => .ok (f, c2)
        | .error err => .error err
      | .error n =>
        -- the exponent passes 32 bits: out of range at the digit that passes,
        -- or zero after all its digits
        let c2 := (List.range n).foldl (fun k _ => k.bump) c1
        if significand ≠ 0 && positiveExp then failAt .numberOutOfRange c2
        else
          let c3 := (c2.rest.takeWhile isDigitChar).foldl (fun k _ => k.bump) c2
          .ok ((if positive then 0.0 else -0.0), c3)

/-- Reads the fraction after a decimal point; extra digits beyond 64 bits of
significand are dropped. -/
def readFraction (positive : Bool) (significand : Nat) (before : Int) (c0 : Cursor)
    (src : Source) : Except Failure (Float × Cursor) :=
  let c := c0.bump
  let rec digits : Nat → Cursor → Nat → Int → Bool → Cursor × Nat × Int × Bool
    | 0, c, s, after, dropped => (c, s, after, dropped)
    | fuel + 1, c, s, after, dropped =>
      match c.rest with
      | y :: _ =>
        if isDigitChar y then
          if dropped then digits fuel c.bump s after true
          else if overflows s (digitValue y) maxU64 then digits fuel c.bump s after true
          else digits fuel c.bump (s * 10 + digitValue y) (after - 1) false
        else (c, s, after, dropped)
      | [] => (c, s, after, dropped)
  let (c1, s, after, dropped) := digits (c.rest.length + 1) c significand 0 false
  if after = 0 && !dropped then
    match c1.rest with
    | [] => failAhead src .eofWhileParsingValue c1
    | _ => failAhead src .invalidNumber c1
  else
    match c1.rest with
    | 'e' :: _ => readExponent positive s (before + after) c1
    | 'E' :: _ => readExponent positive s (before + after) c1
    | _ =>
      match floatFromParts positive s (before + after) c1 with
      | .ok f => .ok (f, c1)
      | .error e => .error e

/-- Reads what follows the integer digits of a number: a fraction, an exponent,
or nothing. -/
def readNumberTail (positive : Bool) (significand : Nat) (c : Cursor) (src : Source) :
    Except Failure (Number × Cursor) :=
  match c.rest with
  | '.' :: _ =>
    match readFraction positive significand 0 c src with
    | .ok (f, c') => .ok (.float f, c')
    | .error e => .error e
  | 'e' :: _ | 'E' :: _ =>
    match readExponent positive significand 0 c with
    | .ok (f, c') => .ok (.float f, c')
    | .error e => .error e
  | _ =>
    if positive then .ok (.nat significand, c)
    else if significand = 0 then .ok (.float (-0.0), c)
    else if significand ≤ Nat.pow 2 63 then .ok (.neg (-(significand : Int)), c)
    else .ok (.float (-(Float.ofNat significand)), c)

/-- Reads the digits of an integer that passed 64 bits: they only raise the
exponent. -/
def readLongInteger (positive : Bool) (significand : Nat) (c : Cursor) (src : Source) :
    Except Failure (Number × Cursor) :=
  let extra := c.rest.takeWhile isDigitChar
  let c1 := extra.foldl (fun k _ => k.bump) c
  let exponent : Int := extra.length
  match c1.rest with
  | '.' :: _ =>
    match readFraction positive significand exponent c1 src with
    | .ok (f, c') => .ok (.float f, c')
    | .error e => .error e
  | 'e' :: _ | 'E' :: _ =>
    match readExponent positive significand exponent c1 with
    | .ok (f, c') => .ok (.float f, c')
    | .error e => .error e
  | _ =>
    match floatFromParts positive significand exponent c1 with
    | .ok f => .ok (.float f, c1)
    | .error e => .error e

/-- Reads a number whose sign, if any, has been read. -/
def readNumber (positive : Bool) (c : Cursor) (src : Source) : Except Failure (Number × Cursor) :=
  match c.rest with
  | [] => failAt .eofWhileParsingValue c
  | '0' :: rest =>
    match rest with
    | y :: _ => if isDigitChar y then failAhead src .invalidNumber c.bump
                else readNumberTail positive 0 c.bump src
    | [] => readNumberTail positive 0 c.bump src
  | x :: _ =>
    if !isDigitChar x then failPast .invalidNumber c
    else
      let rec digits : Nat → Cursor → Nat → Except Failure (Number × Cursor)
        | 0, c, s => readNumberTail positive s c src
        | fuel + 1, c, s =>
          match c.rest with
          | y :: _ =>
            if isDigitChar y then
              if overflows s (digitValue y) maxU64 then readLongInteger positive s c src
              else digits fuel c.bump (s * 10 + digitValue y)
            else readNumberTail positive s c src
          | [] => readNumberTail positive s c src
      digits c.rest.length c.bump (digitValue x)

/-! ## §4. Strings -/

/-- The value of a hexadecimal digit. -/
def hexValue (c : Char) : Option Nat :=
  if '0' ≤ c && c ≤ '9' then some (c.toNat - '0'.toNat)
  else if 'a' ≤ c && c ≤ 'f' then some (c.toNat - 'a'.toNat + 10)
  else if 'A' ≤ c && c ≤ 'F' then some (c.toNat - 'A'.toNat + 10)
  else none

/-- Reads four hexadecimal digits of a `\u` escape. -/
def readHex4 (c : Cursor) (src : Source) : Except Failure (Nat × Cursor) :=
  if src.total < c.index + 4 then .error (.eofWhileParsingString, src.total)
  else
    match c.rest with
    | a :: b :: d :: e :: rest =>
      match hexValue a, hexValue b, hexValue d, hexValue e with
      | some x, some y, some z, some w => .ok (((x * 16 + y) * 16 + z) * 16 + w, ⟨rest, c.index + 4⟩)
      | _, _, _, _ => .error (.invalidEscape, c.index + 4)
    | _ => .error (.invalidEscape, c.index + 4)

/-- Reads the rest of a `\u` escape, pairing surrogates. -/
def readUnicodeEscape (c : Cursor) (src : Source) : Except Failure (Char × Cursor) :=
  match readHex4 c src with
  | .error e => .error e
  | .ok (n, c1) =>
    if 0xDC00 ≤ n && n ≤ 0xDFFF then failAt .loneLeadingSurrogateInHexEscape c1
    else if n < 0xD800 || n > 0xDBFF then .ok (Char.ofNat n, c1)
    else
      match c1.rest with
      | [] => failAt .eofWhileParsingString c1
      | '\\' :: _ =>
        let c2 := c1.bump
        match c2.rest with
        | [] => failAt .eofWhileParsingString c2
        | 'u' :: _ =>
          match readHex4 c2.bump src with
          | .error e => .error e
          | .ok (n2, c3) =>
            if n2 < 0xDC00 || n2 > 0xDFFF then failAt .loneLeadingSurrogateInHexEscape c3
            else .ok (Char.ofNat ((n - 0xD800) * 0x400 + (n2 - 0xDC00) + 0x10000), c3)
        | _ => failPast .unexpectedEndOfHexEscape c2
      | _ => failPast .unexpectedEndOfHexEscape c1

/-- Reads the characters of a string after its opening quote. -/
def readString (c : Cursor) (src : Source) : Except Failure (String × Cursor) :=
  let rec go : Nat → Cursor → List Char → Except Failure (String × Cursor)
    | 0, c, _ => failAt .exhausted c
    | fuel + 1, c, acc =>
      match c.rest with
      | [] => .error (.eofWhileParsingString, src.total)
      | '"' :: _ => .ok (String.ofList acc.reverse, c.bump)
      | '\\' :: _ =>
        let c1 := c.bump
        match c1.rest with
        | [] => .error (.eofWhileParsingString, src.total)
        | e :: _ =>
          let c2 := c1.bump
          let simple : Option Char :=
            match e with
            | '"' => some '"' | '\\' => some '\\' | '/' => some '/'
            | 'b' => some '\x08' | 'f' => some '\x0c' | 'n' => some '\n'
            | 'r' => some '\r' | 't' => some '\t'
            | _ => none
          match simple with
          | some ch => go fuel c2 (ch :: acc)
          | none =>
            if e = 'u' then
              match readUnicodeEscape c2 src with
              | .ok (ch, c3) => go fuel c3 (ch :: acc)
              | .error err => .error err
            else failPast .invalidEscape c1
      | x :: _ =>
        if x.toNat < 0x20 then failPast .controlCharacterWhileParsingString c
        else go fuel c.bump (x :: acc)
  go (c.rest.length + 1) c []

/-! ## §5. Values -/

mutual
/-- Reads one value. `depth` is the nesting still allowed; `fuel` bounds the
steps and is never the binding limit for a text of fewer characters. -/
def readValue (src : Source) : Nat → Nat → Cursor → Step Node
  | 0, _, c => failAt .exhausted c
  | fuel + 1, depth, c0 =>
    let c := c0.skipBlank
    match c.rest with
    | [] => failAhead src .eofWhileParsingValue c
    | 'n' :: _ => (readWord ['u', 'l', 'l'] c.bump).map fun c' => (.null, c')
    | 't' :: _ => (readWord ['r', 'u', 'e'] c.bump).map fun c' => (.bool true, c')
    | 'f' :: _ => (readWord ['a', 'l', 's', 'e'] c.bump).map fun c' => (.bool false, c')
    | '-' :: _ => (readNumber false c.bump src).map fun (n, c') => (.num n, c')
    | '"' :: _ => (readString c.bump src).map fun (s, c') => (.str s, c')
    | '[' :: _ =>
      if depth ≤ 1 then failAhead src .recursionLimitExceeded c
      else readItems src fuel (depth - 1) c.bump true []
    | '{' :: _ =>
      if depth ≤ 1 then failAhead src .recursionLimitExceeded c
      else readEntries src fuel (depth - 1) c.bump true []
    | x :: _ =>
      if isDigitChar x then (readNumber true c src).map fun (n, c') => (.num n, c')
      else failAhead src .expectedSomeValue c

/-- Reads array items up to the closing bracket. -/
def readItems (src : Source) : Nat → Nat → Cursor → Bool → List Node → Step Node
  | 0, _, c, _, _ => failAt .exhausted c
  | fuel + 1, depth, c0, first, acc =>
    let c := c0.skipBlank
    match c.rest with
    | [] => failAhead src .eofWhileParsingList c
    | ']' :: _ => .ok (.arr acc.reverse, c.bump)
    | ',' :: _ =>
      if first then
        match readValue src fuel depth c with
        | .ok (v, c') => readItems src fuel depth c' false (v :: acc)
        | .error e => .error e
      else
        let c1 := c.bump.skipBlank
        match c1.rest with
        | ']' :: _ => failAhead src .trailingComma c1
        | [] => failAhead src .eofWhileParsingValue c1
        | _ =>
          match readValue src fuel depth c1 with
          | .ok (v, c') => readItems src fuel depth c' false (v :: acc)
          | .error e => .error e
    | _ =>
      if first then
        match readValue src fuel depth c with
        | .ok (v, c') => readItems src fuel depth c' false (v :: acc)
        | .error e => .error e
      else failAhead src .expectedListCommaOrEnd c

/-- Reads the key, colon and value of one object entry; the cursor stands on the
key's opening quote. -/
def readEntry (src : Source) : Nat → Nat → Cursor → List (String × Node) → Step Node
  | 0, _, c, _ => failAt .exhausted c
  | fuel + 1, depth, c, acc =>
    match readString c.bump src with
    | .error e => .error e
    | .ok (key, c1) =>
      let c2 := c1.skipBlank
      match c2.rest with
      | ':' :: _ =>
        match readValue src fuel depth c2.bump with
        | .ok (v, c') => readEntries src fuel depth c' false (Node.putEntry key v acc)
        | .error e => .error e
      | [] => failAhead src .eofWhileParsingObject c2
      | _ => failAhead src .expectedColon c2

/-- Reads object entries up to the closing brace. -/
def readEntries (src : Source) : Nat → Nat → Cursor → Bool → List (String × Node) → Step Node
  | 0, _, c, _, _ => failAt .exhausted c
  | fuel + 1, depth, c0, first, acc =>
    let c := c0.skipBlank
    match c.rest with
    | [] => failAhead src .eofWhileParsingObject c
    | '}' :: _ => .ok (.obj acc, c.bump)
    | ',' :: _ =>
      if first then failAhead src .keyMustBeAString c
      else
        let c1 := c.bump.skipBlank
        match c1.rest with
        | '"' :: _ => readEntry src fuel depth c1 acc
        | '}' :: _ => failAhead src .trailingComma c1
        | [] => failAhead src .eofWhileParsingValue c1
        | _ => failAhead src .keyMustBeAString c1
    | '"' :: _ =>
      if first then readEntry src fuel depth c acc
      else failAhead src .expectedObjectCommaOrEnd c
    | _ =>
      if first then failAhead src .keyMustBeAString c
      else failAhead src .expectedObjectCommaOrEnd c
end

/-- Reads a whole JSON text: one value, then nothing but blanks. -/
def read (text : String) : Except ReadError Node :=
  let chars := text.toList
  let src : Source := ⟨text.utf8ByteSize⟩
  let toError (f : Failure) : ReadError :=
    let (line, column) := positionOf chars f.2
    ⟨f.1, line, column⟩
  match readValue src (2 * chars.length + 4) 128 ⟨chars, 0⟩ with
  | .error f => .error (toError f)
  | .ok (v, c) =>
    let c' := c.skipBlank
    match c'.rest with
    | [] => .ok v
    | _ => .error (toError (.trailingCharacters, min src.total (c'.index + 1)))

end ShapeKit.Json
