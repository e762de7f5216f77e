import ShapeKit.Regex.Ast
import ShapeKit.Text.Blank
import ShapeKit.Unicode.Property

/-!
# Regular expressions: parsing

The parser reads a pattern left to right and stops at the first mistake. It
keeps two stacks instead of recursing: the groups and alternations still open,
and the brackets and class operators still open. A `(` pushes the sequence read
so far with the group's head, a `)` pops it and wraps what was read since; a
`|` closes the current branch. Inside brackets, `[` opens a nested class and
`&&`, `--`, `~~` turn what was read into the left side of an operator, which
binds to the left: `[a&&b--c]` is `(a && b) -- c`.

Flags written `(?x)` make blanks and `#` comments insignificant until the
enclosing group closes; the other flags are left to the translation. After the
whole pattern has parsed, its nesting is checked (`checkNesting`).

Spans count characters from `0`, end exclusive.
-/

namespace ShapeKit.Regex

/-! ## §1. State -/

/-- A sequence being read: its span so far and its pieces, newest first. -/
structure Seq where
  span : Span
  items : List Ast

/-- A sequence with one more piece. -/
def Seq.push (s : Seq) (a : Ast) : Seq := { s with items := a :: s.items }

/-- The expression a sequence stands for: nothing, its one piece, or the
sequence. -/
def Seq.toAst (s : Seq) : Ast :=
  match s.items with
  | [] => .empty s.span
  | [a] => a
  | items => .concat s.span items.reverse

/-- An alternation being read: its span so far and its branches, newest first. -/
structure Alts where
  span : Span
  branches : List Ast

/-- The expression an alternation stands for. -/
def Alts.toAst (a : Alts) : Ast :=
  match a.branches with
  | [] => .empty a.span
  | [b] => b
  | bs => .alternation a.span bs.reverse

/-- The head of an open group: the span of its `(` and what it does. -/
structure GroupHead where
  span : Span
  kind : GroupKind

/-- An open group with the sequence read before it and whether blanks were
insignificant there, or the alternation of the innermost open group. -/
inductive GroupState where
  | group (before : Seq) (head : GroupHead) (ignoreSpace : Bool)
  | alternation (alts : Alts)

/-- The items of a bracket being read: their span and the items, newest first. -/
structure ItemUnion where
  span : Span
  items : List ClassItem

/-- A union with one more item; its span runs from its first item to its last. -/
def ItemUnion.push (u : ItemUnion) (i : ClassItem) : ItemUnion :=
  { span := ⟨if u.items.isEmpty then i.span.start else u.span.start, i.span.stop⟩
    items := i :: u.items }

/-- The item a union stands for: nothing, its one item, or the union. -/
def ItemUnion.toItem (u : ItemUnion) : ClassItem :=
  match u.items with
  | [] => .empty u.span
  | [i] => i
  | items => .union u.span items.reverse

/-- An open bracket with the items of the enclosing bracket read before it, or
an operator with its left side. -/
inductive ClassState where
  | bracket (outer : ItemUnion) (span : Span) (negated : Bool)
  | op (kind : ClassOp) (lhs : ClassSet)

/-- The parser's state. -/
structure St where
  src : Array Char
  pos : Nat
  ignoreSpace : Bool := false
  captureIndex : Nat := 0
  names : List (String × Span) := []
  groups : List GroupState := []
  classes : List ClassState := []

/-- A parsing step. -/
abbrev Parse := StateT St (Except Error)

/-- Stops with a mistake. -/
def failWith {α : Type} (k : ErrorKind) (sp : Span) : Parse α := throw { kind := k, span := sp }

/-- The current character. -/
def cur : Parse (Option Char) := do
  let s ← get
  return s.src[s.pos]?

/-- The character after the current one. -/
def peek : Parse (Option Char) := do
  let s ← get
  return s.src[s.pos + 1]?

/-- The position. -/
def here : Parse Nat := do return (← get).pos

/-- Whether the pattern is used up. -/
def atEnd : Parse Bool := do
  let s ← get
  return s.src.size ≤ s.pos

/-- The empty span at the position. -/
def spanHere : Parse Span := do
  let p ← here
  return ⟨p, p⟩

/-- The span of the current character. -/
def spanChar : Parse Span := do
  let p ← here
  return ⟨p, p + 1⟩

/-- Moves one character on; false when that reaches the end. -/
def bump : Parse Bool := do
  let s ← get
  if s.pos < s.src.size then set { s with pos := s.pos + 1 }
  let t ← get
  return t.pos < t.src.size

/-- Moves to a position. -/
def moveTo (p : Nat) : Parse Unit := modify fun s => { s with pos := p }

/-- The position after a comment whose `#` is before `p`: after its line feed,
or the end. -/
def afterComment (src : Array Char) : Nat → Nat → Nat
  | 0, p => p
  | fuel + 1, p =>
    match src[p]? with
    | some '\n' => p + 1
    | some _ => afterComment src fuel (p + 1)
    | none => p

/-- The position after blanks and comments from `p`. -/
def afterSpaces (src : Array Char) : Nat → Nat → Nat
  | 0, p => p
  | fuel + 1, p =>
    match src[p]? with
    | some c =>
      if Text.isBlank c then afterSpaces src fuel (p + 1)
      else if c == '#' then afterSpaces src fuel (afterComment src src.size (p + 1))
      else p
    | none => p

/-- Skips blanks and comments when blanks are insignificant. -/
def bumpSpace : Parse Unit := do
  let s ← get
  if s.ignoreSpace then set { s with pos := afterSpaces s.src s.src.size s.pos }

/-- Moves one character on, then skips blanks; false at the end. -/
def bumpAndBumpSpace : Parse Bool := do
  if !(← bump) then return false
  bumpSpace
  return !(← atEnd)

/-- The character `peekSpace` finds after position `p`: the first character
that is not a blank, where a `#` starts a comment and the first character of a
comment that is neither a blank nor a line feed also counts. -/
def peekFrom (src : Array Char) (inComment : Bool) : Nat → Nat → Option Nat
  | 0, _ => none
  | fuel + 1, p =>
    match src[p]? with
    | none => none
    | some c =>
      if Text.isBlank c then peekFrom src inComment fuel (p + 1)
      else if !inComment && c == '#' then peekFrom src true fuel (p + 1)
      else if inComment && c == '\n' then peekFrom src false fuel (p + 1)
      else some p

/-- The next significant character after the current one. When nothing but
blanks and comments follow, this is the character right after the current one. -/
def peekSpace : Parse (Option Char) := do
  let s ← get
  if !s.ignoreSpace then return (← peek)
  if s.src.size ≤ s.pos then return none
  match peekFrom s.src false s.src.size (s.pos + 1) with
  | some p => return s.src[p]?
  | none => return s.src[s.pos + 1]?

/-- Moves past `word` when the pattern continues with it. -/
def bumpIf (word : String) : Parse Bool := do
  let s ← get
  let w := word.toList
  if (s.src.toList.drop s.pos).take w.length == w then
    set { s with pos := s.pos + w.length }
    return true
  return false

/-! ## §2. Escapes -/

/-- The characters that are escaped to stand for themselves. -/
def isMeta (c : Char) : Bool := "\\.+*?()|[]{}^$#&-~".toList.contains c

/-- Characters that may be escaped needlessly: ASCII characters other than
letters, digits, `<` and `>`. -/
def isEscapable (c : Char) : Bool :=
  isMeta c || (c.toNat < 128 && !c.isAlphanum && c != '<' && c != '>')

/-- The character with a code, when the code is a Unicode scalar value. -/
def scalar? (n : Nat) : Option Char :=
  if n < 0xD800 || (0xE000 ≤ n && n ≤ 0x10FFFF) then some (Char.ofNat n) else none

/-- A piece read by an escape or inside brackets. -/
inductive Prim where
  | literal (lit : Literal)
  | assertion (span : Span) (kind : AssertionKind)
  | dot (span : Span)
  | perl (span : Span) (kind : PerlKind) (negated : Bool)
  | unicode (cls : UnicodeClass)

/-- Where a piece stands. -/
def Prim.span : Prim → Span
  | .literal l => l.span
  | .assertion s _ | .dot s | .perl s _ _ => s
  | .unicode u => u.span

/-- A piece as an expression. -/
def Prim.toAst : Prim → Ast
  | .literal l => .literal l
  | .assertion s k => .assertion s k
  | .dot s => .dot s
  | .perl s k n => .perlClass s k n
  | .unicode u => .unicodeClass u

/-- A piece as a class item; assertions cannot stand in brackets. -/
def Prim.toClassItem : Prim → Parse ClassItem
  | .literal l => pure (.literal l)
  | .perl s k n => pure (.perl s k n)
  | .unicode u => pure (.unicode u)
  | p => failWith .classEscapeInvalid p.span

/-- A piece as a range bound. -/
def Prim.toClassLiteral : Prim → Parse Literal
  | .literal l => pure l
  | p => failWith .classRangeLiteral p.span

/-- Reads a fixed number of hexadecimal digits, the first at the position. -/
def hexDigits (count : Nat) (kind : LiteralKind) : Parse Literal := do
  let start ← here
  let mut acc := 0
  for i in List.range count do
    if i > 0 then
      if !(← bumpAndBumpSpace) then failWith .escapeUnexpectedEof (← spanHere)
    match (← cur).bind Unicode.hexValue? with
    | some d => acc := 16 * acc + d
    | none => failWith .escapeHexInvalidDigit (← spanChar)
  let _ ← bumpAndBumpSpace
  let stop ← here
  match scalar? acc with
  | some c => return ⟨⟨start, stop⟩, kind, c⟩
  | none => failWith .escapeHexInvalid ⟨start, stop⟩

/-- Reads hexadecimal digits in braces, the `{` at the position. -/
def hexBraced : Parse Literal := do
  let bracePos ← here
  let start := bracePos + 1
  let mut acc := 0
  let mut count := 0
  let bound := (← get).src.size + 1
  for _ in List.range bound do
    if !(← bumpAndBumpSpace) then break
    match ← cur with
    | some '}' => break
    | some c =>
      match Unicode.hexValue? c with
      | some d => acc := 16 * acc + d; count := count + 1
      | none => failWith .escapeHexInvalidDigit (← spanChar)
    | none => break
  if ← atEnd then failWith .escapeUnexpectedEof ⟨bracePos, ← here⟩
  let stop ← here
  let _ ← bumpAndBumpSpace
  if count == 0 then failWith .escapeHexEmpty ⟨bracePos, ← here⟩
  match (if acc < Nat.pow 2 32 then scalar? acc else none) with
  | some c => return ⟨⟨start, ← here⟩, .plain, c⟩
  | none => failWith .escapeHexInvalid ⟨start, stop⟩

/-- Reads `\x`, `\u` or `\U` with the letter at the position. Only `\x` with
two digits can stand for a byte. -/
def hexEscape (letter : Char) : Parse Literal := do
  if !(← bumpAndBumpSpace) then failWith .escapeUnexpectedEof (← spanHere)
  if (← cur) == some '{' then hexBraced
  else if letter == 'x' then hexDigits 2 .byteEscape
  else hexDigits (if letter == 'u' then 4 else 8) .plain

/-- The property and value of a braced `\p` name: split at the first `!=`,
else at the first `:`, else at the first `=`. -/
def splitPropertyName (name : List Char) : UnicodeKind :=
  let rec findNe : List Char → Nat → Option Nat
    | '!' :: '=' :: _, i => some i
    | _ :: rest, i => findNe rest (i + 1)
    | [], _ => none
  match findNe name 0 with
  | some i => .byValue (String.ofList (name.take i)) (String.ofList (name.drop (i + 2))) true
  | none =>
    match name.idxOf? ':' with
    | some i => .byValue (String.ofList (name.take i)) (String.ofList (name.drop (i + 1))) false
    | none =>
      match name.idxOf? '=' with
      | some i => .byValue (String.ofList (name.take i)) (String.ofList (name.drop (i + 1))) false
      | none => .named (String.ofList name)

/-- Reads `\p` or `\P` with the letter at the position; `start` is where the
backslash stands. -/
def unicodeEscape (start : Nat) : Parse UnicodeClass := do
  let negated := (← cur) == some 'P'
  if !(← bumpAndBumpSpace) then failWith .escapeUnexpectedEof (← spanHere)
  if (← cur) == some '{' then
    let mut name : List Char := []
    let bound := (← get).src.size + 1
    for _ in List.range bound do
      if !(← bumpAndBumpSpace) then break
      match ← cur with
      | some '}' => break
      | some c => name := name ++ [c]
      | none => break
    if ← atEnd then failWith .escapeUnexpectedEof (← spanHere)
    let _ ← bump
    return ⟨⟨start, ← here⟩, negated, splitPropertyName name⟩
  else
    let some c ← cur | failWith .escapeUnexpectedEof (← spanHere)
    if c == '\\' then failWith .unicodeClassInvalid (← spanChar)
    let _ ← bumpAndBumpSpace
    return ⟨⟨start, ← here⟩, negated, .oneLetter c⟩

/-- Reads `\b{...}` with the `{` at the position, or backs out to it when the
braces hold no letters (then they are a count). -/
def specialWordBoundary (wbStart : Nat) : Parse (Option AssertionKind) := do
  let start ← here
  if !(← bumpAndBumpSpace) then failWith .specialWordOrRepetitionUnexpectedEof ⟨wbStart, ← here⟩
  let contentStart ← here
  let valid (c : Char) : Bool := c.isAlpha || c == '-'
  match ← cur with
  | some c =>
    if !valid c then
      moveTo start
      return none
  | none => pure ()
  let mut word : List Char := []
  let bound := (← get).src.size + 1
  for _ in List.range bound do
    match ← cur with
    | some c =>
      if valid c then
        word := word ++ [c]
        let _ ← bumpAndBumpSpace
      else break
    | none => break
  if (← cur) != some '}' then failWith .specialWordBoundaryUnclosed ⟨start, ← here⟩
  let stop ← here
  let _ ← bump
  let w := String.ofList word
  if w == "start" then return some .wordStart
  else if w == "end" then return some .wordEnd
  else if w == "start-half" then return some .wordStartHalf
  else if w == "end-half" then return some .wordEndHalf
  else failWith .specialWordBoundaryUnrecognized ⟨contentStart, stop⟩

/-- Reads an escape at a backslash. -/
def parseEscape : Parse Prim := do
  let start ← here
  if !(← bump) then failWith .escapeUnexpectedEof ⟨start, ← here⟩
  let some c ← cur | failWith .escapeUnexpectedEof ⟨start, ← here⟩
  if c.isDigit then failWith .unsupportedBackreference ⟨start, (← here) + 1⟩
  if c == 'x' || c == 'u' || c == 'U' then
    let lit ← hexEscape c
    return .literal { lit with span := ⟨start, lit.span.stop⟩ }
  if c == 'p' || c == 'P' then
    return .unicode (← unicodeEscape start)
  let perl : Option (PerlKind × Bool) :=
    if c == 'd' then some (.digit, false) else if c == 'D' then some (.digit, true)
    else if c == 's' then some (.space, false) else if c == 'S' then some (.space, true)
    else if c == 'w' then some (.word, false) else if c == 'W' then some (.word, true)
    else none
  if let some (k, n) := perl then
    let _ ← bump
    return .perl ⟨start, ← here⟩ k n
  let _ ← bump
  let span : Span := ⟨start, ← here⟩
  let lit (ch : Char) : Parse Prim := pure (.literal ⟨span, .plain, ch⟩)
  if isEscapable c then return ← lit c
  if c == 'a' then return ← lit '\x07'
  if c == 'f' then return ← lit '\x0C'
  if c == 't' then return ← lit '\t'
  if c == 'n' then return ← lit '\n'
  if c == 'r' then return ← lit '\r'
  if c == 'v' then return ← lit '\x0B'
  if c == 'A' then return .assertion span .startText
  if c == 'z' then return .assertion span .endText
  if c == 'B' then return .assertion span .notWordBoundary
  if c == '<' then return .assertion span .wordStartAngle
  if c == '>' then return .assertion span .wordEndAngle
  if c == 'b' then
    if (← cur) == some '{' then
      if let some k ← specialWordBoundary start then return .assertion ⟨start, ← here⟩ k
    return .assertion span .wordBoundary
  failWith .escapeUnrecognized span

/-- Reads one piece outside brackets. -/
def parsePrimitive : Parse Prim := do
  let some c ← cur | failWith .exhausted (← spanHere)
  if c == '\\' then return ← parseEscape
  let sp ← spanChar
  let _ ← bump
  if c == '.' then return .dot sp
  if c == '^' then return .assertion sp .startLine
  if c == '$' then return .assertion sp .endLine
  return .literal ⟨sp, .plain, c⟩

/-! ## §3. Bracketed classes -/

/-- The POSIX class with a name. -/
def AsciiKind.ofName? (s : String) : Option AsciiKind :=
  [("alnum", AsciiKind.alnum), ("alpha", .alpha), ("ascii", .ascii), ("blank", .blank),
   ("cntrl", .cntrl), ("digit", .digit), ("graph", .graph), ("lower", .lower), ("print", .print),
   ("punct", .punct), ("space", .space), ("upper", .upper), ("word", .word), ("xdigit", .xdigit)].lookup s

/-- Reads `[:name:]` or `[:^name:]` at a `[`, or backs out. -/
def asciiClass : Parse (Option ClassItem) := do
  let s0 ← get
  let src := s0.src
  let p := s0.pos
  let back : Parse (Option ClassItem) := do
    moveTo p
    return none
  if src[p + 1]? != some ':' then return ← back
  if src.size ≤ p + 2 then return ← back
  let negated := src[p + 2]? == some '^'
  let nameStart := if negated then p + 3 else p + 2
  if src.size ≤ nameStart then return ← back
  let name := (src.toList.drop nameStart).takeWhile (· != ':')
  let after := nameStart + name.length
  if src[after]? != some ':' || src[after + 1]? != some ']' then return ← back
  match AsciiKind.ofName? (String.ofList name) with
  | some k =>
    moveTo (after + 2)
    return some (.ascii ⟨p, after + 2⟩ k negated)
  | none => back

/-- The mistake of an unclosed class, reported at the innermost open bracket. -/
def unclosedClass {α : Type} : Parse α := do
  let open? := (← get).classes.findSome? fun
    | .bracket _ span _ => some span
    | .op _ _ => none
  failWith .classUnclosed (open?.getD ⟨0, 0⟩)

/-- Reads one item inside brackets: an escape or a character. -/
def parseClassItem : Parse Prim := do
  match ← cur with
  | some '\\' => parseEscape
  | some c =>
    let sp ← spanChar
    let _ ← bump
    return .literal ⟨sp, .plain, c⟩
  | none => unclosedClass

/-- Reads an item or a range `a-z` inside brackets. A `-` before `]` or before
another `-` is no range. -/
def parseClassRange : Parse ClassItem := do
  let p1 ← parseClassItem
  bumpSpace
  if ← atEnd then unclosedClass
  let after ← peekSpace
  if (← cur) != some '-' || after == some ']' || after == some '-' then return ← p1.toClassItem
  if !(← bumpAndBumpSpace) then unclosedClass
  let p2 ← parseClassItem
  let span : Span := ⟨p1.span.start, p2.span.stop⟩
  let lo ← p1.toClassLiteral
  let hi ← p2.toClassLiteral
  if hi.c < lo.c then failWith .classRangeInvalid span
  return .range span lo hi

/-- Reads the start of a bracket at its `[`: an optional `^`, then leading `-`
and a leading `]`, which stand for themselves. Gives the span of that start,
the negation and the items read. -/
def parseClassOpen : Parse (Span × Bool × ItemUnion) := do
  let start ← here
  if !(← bumpAndBumpSpace) then failWith .classUnclosed ⟨start, ← here⟩
  let mut negated := false
  if (← cur) == some '^' then
    negated := true
    if !(← bumpAndBumpSpace) then failWith .classUnclosed ⟨start, ← here⟩
  let mut union : ItemUnion := ⟨← spanHere, []⟩
  let bound := (← get).src.size + 1
  for _ in List.range bound do
    if (← cur) != some '-' then break
    union := union.push (.literal ⟨← spanChar, .plain, '-'⟩)
    if !(← bumpAndBumpSpace) then failWith .classUnclosed ⟨start, start⟩
  if union.items.isEmpty && (← cur) == some ']' then
    union := union.push (.literal ⟨← spanChar, .plain, ']'⟩)
    if !(← bumpAndBumpSpace) then failWith .classUnclosed ⟨start, ← here⟩
  return (⟨start, ← here⟩, negated, union)

/-- Opens a nested bracket: the items read so far wait on the stack. -/
def pushClassOpen (outer : ItemUnion) : Parse ItemUnion := do
  let (span, negated, inner) ← parseClassOpen
  modify fun s => { s with classes := .bracket outer span negated :: s.classes }
  return inner

/-- Joins a right side to the operator waiting on the stack, if any. -/
def popClassOp (rhs : ClassSet) : Parse ClassSet := do
  match (← get).classes with
  | .op kind lhs :: rest =>
    modify fun s => { s with classes := rest }
    return .op ⟨lhs.span.start, rhs.span.stop⟩ kind lhs rhs
  | _ => return rhs

/-- Starts an operator: what was read becomes its left side. -/
def pushClassOp (kind : ClassOp) (items : ItemUnion) : Parse ItemUnion := do
  let lhs ← popClassOp (.item items.toItem)
  modify fun s => { s with classes := .op kind lhs :: s.classes }
  return ⟨← spanHere, []⟩

/-- Closes the innermost bracket at its `]`: gives the enclosing bracket's
items with the class added, or the whole class when it was the outermost. -/
def popClass (items : ItemUnion) : Parse (Sum ItemUnion Ast) := do
  let body ← popClassOp (.item items.toItem)
  match (← get).classes with
  | .bracket outer span negated :: rest =>
    modify fun s => { s with classes := rest }
    let _ ← bump
    let whole : Span := ⟨span.start, ← here⟩
    if rest.isEmpty then return .inr (.bracketed whole negated body)
    else return .inl (outer.push (.bracketed whole negated body))
  | _ => failWith .exhausted ⟨0, 0⟩

/-- Reads a bracketed class at its `[`. -/
def parseClass : Parse Ast := do
  let mut union : ItemUnion := ⟨← spanHere, []⟩
  let bound := (← get).src.size + 1
  for _ in List.range bound do
    bumpSpace
    match ← cur with
    | none => unclosedClass
    | some '[' =>
      let ascii ← if (← get).classes.isEmpty then pure none else asciiClass
      match ascii with
      | some a => union := union.push a
      | none => union ← pushClassOpen union
    | some ']' =>
      match ← popClass union with
      | .inl u => union := u
      | .inr a => return a
    | some c =>
      let nxt ← peek
      let op : Option ClassOp :=
        if c == '&' && nxt == some '&' then some .inter
        else if c == '-' && nxt == some '-' then some .diff
        else if c == '~' && nxt == some '~' then some .symDiff
        else none
      match op with
      | some k =>
        let _ ← bump
        let _ ← bump
        union ← pushClassOp k union
      | none => union := union.push (← parseClassRange)
  failWith .exhausted (← spanHere)

/-! ## §4. Groups and flags -/

/-- The flags a letter names. -/
def isFlagLetter (c : Char) : Bool := "imsUuRx".toList.contains c

/-- Reads flag letters up to `:` or `)`. -/
def parseFlags : Parse (List FlagItem) := do
  let mut seen : List (FlagItem × Span) := []
  let mut lastNeg : Option Span := none
  let bound := (← get).src.size + 1
  for _ in List.range bound do
    let some c ← cur | break
    if c == ':' || c == ')' then break
    let sp ← spanChar
    let item : FlagItem := if c == '-' then .negation else .flag c
    if c == '-' then
      lastNeg := some sp
      if let some (_, orig) := seen.find? (·.1 == item) then
        throw { kind := .flagRepeatedNegation, span := sp, aux := some orig }
    else
      lastNeg := none
      if !isFlagLetter c then failWith .flagUnrecognized sp
      if let some (_, orig) := seen.find? (·.1 == item) then
        throw { kind := .flagDuplicate, span := sp, aux := some orig }
    seen := seen ++ [(item, sp)]
    if !(← bump) then failWith .flagUnexpectedEof (← spanHere)
  if let some sp := lastNeg then failWith .flagDanglingNegation sp
  return seen.map (·.1)

/-- Whether flags turn a letter on or off, if they name it. -/
def flagState (items : List FlagItem) (letter : Char) : Option Bool :=
  let step (acc : Bool × Option Bool) (i : FlagItem) : Bool × Option Bool :=
    match acc, i with
    | (_, some v), _ => (false, some v)
    | (_, none), .negation => (true, none)
    | (neg, none), .flag c => if c == letter then (neg, some !neg) else (neg, none)
  (items.foldl step (false, none)).2

/-- Whether a character may stand in a capture name. -/
def isNameChar (c : Char) (first : Bool) : Bool :=
  if first then c == '_' || Unicode.isAlphabetic c
  else c == '_' || c == '.' || c == '[' || c == ']' || Unicode.isAlphabetic c || Unicode.isNumeric c

/-- Reads a capture name up to `>`. -/
def parseCaptureName : Parse String := do
  if ← atEnd then failWith .groupNameUnexpectedEof (← spanHere)
  let start ← here
  let bound := (← get).src.size + 1
  for _ in List.range bound do
    let some c ← cur | break
    if c == '>' then break
    if !isNameChar c ((← here) == start) then failWith .groupNameInvalid (← spanChar)
    if !(← bump) then break
  let stop ← here
  if ← atEnd then failWith .groupNameUnexpectedEof (← spanHere)
  let _ ← bump
  if stop == start then failWith .groupNameEmpty ⟨start, start⟩
  let s ← get
  let name := String.ofList ((s.src.toList.drop start).take (stop - start))
  match s.names.lookup name with
  | some orig => throw { kind := .groupNameDuplicate, span := ⟨start, stop⟩, aux := some orig }
  | none =>
    set { s with names := (name, ⟨start, stop⟩) :: s.names }
    return name

/-- The number of the next capture group. -/
def nextCaptureIndex : Parse Nat := do
  let s ← get
  set { s with captureIndex := s.captureIndex + 1 }
  return s.captureIndex + 1

/-- Reads the head of a group at its `(`: a flag change `(?flags)` with its
span, or the head of a group. -/
def parseGroup : Parse (Sum (Span × List FlagItem) GroupHead) := do
  let openSpan ← spanChar
  let _ ← bump
  bumpSpace
  for word in ["?=", "?!", "?<=", "?<!"] do
    if ← bumpIf word then failWith .unsupportedLookAround ⟨openSpan.start, ← here⟩
  let inner ← spanHere
  if (← bumpIf "?P<") || (← bumpIf "?<") then
    let index ← nextCaptureIndex
    let name ← parseCaptureName
    return .inr ⟨openSpan, .capture index (some name)⟩
  if ← bumpIf "?" then
    if ← atEnd then failWith .groupUnclosed openSpan
    let flags ← parseFlags
    let last ← cur
    let _ ← bump
    if last == some ')' then
      if flags.isEmpty then failWith .repetitionMissing inner
      return .inl (⟨openSpan.start, ← here⟩, flags)
    return .inr ⟨openSpan, .nonCapturing flags⟩
  let index ← nextCaptureIndex
  return .inr ⟨openSpan, .capture index none⟩

/-- The flags a group head sets. -/
def GroupHead.flags? (h : GroupHead) : Option (List FlagItem) :=
  match h.kind with
  | .nonCapturing fs => some fs
  | .capture _ _ => none

/-- Reads a group head at `(`: a flag change joins the sequence, a group is
pushed and a new sequence starts inside it. -/
def pushGroup (seq : Seq) : Parse Seq := do
  match ← parseGroup with
  | .inl (span, items) =>
    if let some v := flagState items 'x' then modify fun s => { s with ignoreSpace := v }
    return seq.push (.flags span items)
  | .inr head =>
    let old := (← get).ignoreSpace
    let new := (head.flags?.bind (flagState · 'x')).getD old
    modify fun s => { s with groups := .group seq head old :: s.groups, ignoreSpace := new }
    return ⟨← spanHere, []⟩

/-- Closes the innermost group at `)`. -/
def popGroup (inner : Seq) : Parse Seq := do
  let (before, head, ws, alts, rest) ← match (← get).groups with
    | .group before head ws :: rest => pure (before, head, ws, none, rest)
    | .alternation alts :: .group before head ws :: rest => pure (before, head, ws, some alts, rest)
    | _ => failWith .groupUnopened (← spanChar)
  let innerStop ← here
  modify fun s => { s with groups := rest, ignoreSpace := ws }
  let _ ← bump
  let inner' : Seq := { inner with span := ⟨inner.span.start, innerStop⟩ }
  let body := match alts with
    | some a => Alts.toAst ⟨⟨a.span.start, innerStop⟩, inner'.toAst :: a.branches⟩
    | none => inner'.toAst
  return before.push (.group ⟨head.span.start, ← here⟩ head.kind body)

/-- Ends a branch at `|`. -/
def pushAlternate (seq : Seq) : Parse Seq := do
  let p ← here
  let branch := ({ seq with span := ⟨seq.span.start, p⟩ } : Seq).toAst
  modify fun s =>
    match s.groups with
    | .alternation a :: rest =>
      { s with groups := .alternation { a with branches := branch :: a.branches } :: rest }
    | gs => { s with groups := .alternation ⟨⟨seq.span.start, p⟩, [branch]⟩ :: gs }
  let _ ← bump
  return ⟨← spanHere, []⟩

/-- Ends the pattern: every group must be closed. -/
def popGroupEnd (seq : Seq) : Parse Ast := do
  let p ← here
  let last := ({ seq with span := ⟨seq.span.start, p⟩ } : Seq).toAst
  match (← get).groups with
  | [] => return last
  | .alternation a :: rest =>
    match rest with
    | [] => return .alternation ⟨a.span.start, p⟩ (last :: a.branches).reverse
    | .group _ head _ :: _ => failWith .groupUnclosed head.span
    | _ => failWith .exhausted ⟨0, 0⟩
  | .group _ head _ :: _ => failWith .groupUnclosed head.span

/-! ## §5. Repetitions -/

/-- Takes the last piece of a sequence to repeat; there must be one, and it
cannot be a flag change. -/
def lastPiece (seq : Seq) : Parse (Ast × List Ast) := do
  match seq.items with
  | [] => failWith .repetitionMissing (← spanHere)
  | .empty _ :: _ | .flags _ _ :: _ => failWith .repetitionMissing (← spanHere)
  | a :: rest => return (a, rest)

/-- Applies `?`, `*` or `+` to the last piece. -/
def uncountedRepetition (seq : Seq) (kind : RepKind) : Parse Seq := do
  let (a, rest) ← lastPiece seq
  let mut greedy := true
  if (← bump) && (← cur) == some '?' then
    greedy := false
    let _ ← bump
  return { seq with items := .repetition (a.withStop (← here)) kind greedy a :: rest }

/-- Reads a decimal count inside braces. -/
def parseDecimal : Parse Nat := do
  let bound := (← get).src.size + 1
  for _ in List.range bound do
    match ← cur with
    | some c => if Text.isBlank c then let _ ← bump else break
    | none => break
  let start ← here
  let mut digits : List Char := []
  for _ in List.range bound do
    match ← cur with
    | some c => if c.isDigit then digits := digits ++ [c]; let _ ← bumpAndBumpSpace else break
    | none => break
  let stop ← here
  for _ in List.range bound do
    match ← cur with
    | some c => if Text.isBlank c then let _ ← bumpAndBumpSpace else break
    | none => break
  if digits.isEmpty then failWith .repetitionCountDecimalEmpty ⟨start, stop⟩
  let n := digits.foldl (fun n c => 10 * n + (c.toNat - 48)) 0
  if n < Nat.pow 2 32 then return n else failWith .decimalInvalid ⟨start, stop⟩

/-- Applies `{n}`, `{n,}` or `{n,m}` to the last piece. -/
def countedRepetition (seq : Seq) : Parse Seq := do
  let start ← here
  let (a, rest) ← lastPiece seq
  if !(← bumpAndBumpSpace) then failWith .repetitionCountUnclosed ⟨start, ← here⟩
  let lo ← parseDecimal
  let mut kind := RepKind.exactly lo
  if ← atEnd then failWith .repetitionCountUnclosed ⟨start, ← here⟩
  if (← cur) == some ',' then
    if !(← bumpAndBumpSpace) then failWith .repetitionCountUnclosed ⟨start, ← here⟩
    if (← cur) != some '}' then kind := .bounded lo (← parseDecimal) else kind := .atLeast lo
  if (← cur) != some '}' then failWith .repetitionCountUnclosed ⟨start, ← here⟩
  let mut greedy := true
  if (← bumpAndBumpSpace) && (← cur) == some '?' then
    greedy := false
    let _ ← bump
  let opSpan : Span := ⟨start, ← here⟩
  if let .bounded m n := kind then
    if n < m then failWith .repetitionCountInvalid opSpan
  return { seq with items := .repetition (a.withStop (← here)) kind greedy a :: rest }

/-! ## §6. Patterns -/

/-- Reads the whole pattern. -/
def parseAll : Parse Ast := do
  let mut seq : Seq := ⟨⟨0, 0⟩, []⟩
  let bound := (← get).src.size + 1
  for _ in List.range bound do
    bumpSpace
    match ← cur with
    | none => break
    | some c =>
      if c == '(' then seq ← pushGroup seq
      else if c == ')' then seq ← popGroup seq
      else if c == '|' then seq ← pushAlternate seq
      else if c == '[' then seq := seq.push (← parseClass)
      else if c == '?' then seq ← uncountedRepetition seq .zeroOrOne
      else if c == '*' then seq ← uncountedRepetition seq .zeroOrMore
      else if c == '+' then seq ← uncountedRepetition seq .oneOrMore
      else if c == '{' then seq ← countedRepetition seq
      else seq := seq.push (← parsePrimitive).toAst
  if !(← atEnd) then failWith .exhausted (← spanHere)
  popGroupEnd seq

/-- Parses a pattern and checks its nesting. -/
def parse (pattern : String) : Except Error Ast := do
  let src := pattern.toList.toArray
  let (a, _) ← parseAll.run { src, pos := 0 }
  checkNesting a
  return a

end ShapeKit.Regex
