import ShapeKit.Regex.Ast
import ShapeKit.Regex.Hir
import ShapeKit.Unicode.Query

/-!
# Regular expressions: translation

A parsed pattern is translated piece by piece, in reading order, into the
normal form of `Regex.Hir`, with the flags applied:

* `i` folds case: a literal becomes the class of its case variants, and a class
  is closed under case folding before any negation;
* `m` makes `^` and `$` lines ends, and `R` makes `\r\n` the line end for them
  and keeps `.` off `\r`;
* `s` lets `.` match a line feed;
* `U` swaps greedy and lazy repetitions;
* `u`, on by default, makes classes and word boundaries Unicode-aware. With it
  off, a class works on bytes, and since a match must be UTF-8 text, a class or
  `.` or `\B` that could match a byte outside ASCII is a mistake
  (`invalidUtf8`), as are `\p` classes and non-ASCII characters in brackets
  (`unicodeNotAllowed`).

Flags set by `(?flags)` hold to the end of the enclosing group, across its
alternatives; a group `(?flags:...)` sets them for its body only. The first
mistake in reading order is the one reported.
-/

namespace ShapeKit.Regex

open Unicode

/-! ## §1. Flags -/

/-- The flags in force. -/
structure Flags where
  fold : Bool := false
  multiLine : Bool := false
  dotNewline : Bool := false
  swapGreed : Bool := false
  unicode : Bool := true
  crlf : Bool := false
deriving Repr

/-- Sets or clears a flag by its letter; `x` is the parser's. -/
def Flags.put (f : Flags) (c : Char) (v : Bool) : Flags :=
  if c == 'i' then { f with fold := v }
  else if c == 'm' then { f with multiLine := v }
  else if c == 's' then { f with dotNewline := v }
  else if c == 'U' then { f with swapGreed := v }
  else if c == 'u' then { f with unicode := v }
  else if c == 'R' then { f with crlf := v }
  else f

/-- The flags after a flag change: letters before a `-` are set, letters after
it cleared, and flags not named are kept. -/
def Flags.apply (f : Flags) (items : List FlagItem) : Flags :=
  (items.foldl (fun (acc : Flags × Bool) i =>
    match i with
    | .negation => (acc.1, false)
    | .flag c => (acc.1.put c acc.2, acc.2)) (f, true)).1

/-! ## §2. Classes -/

/-- The ranges of a POSIX class. -/
def asciiRanges : AsciiKind → List CodeRange
  | .alnum => [⟨0x30, 0x39⟩, ⟨0x41, 0x5A⟩, ⟨0x61, 0x7A⟩]
  | .alpha => [⟨0x41, 0x5A⟩, ⟨0x61, 0x7A⟩]
  | .ascii => [⟨0x00, 0x7F⟩]
  | .blank => [⟨0x09, 0x09⟩, ⟨0x20, 0x20⟩]
  | .cntrl => [⟨0x00, 0x1F⟩, ⟨0x7F, 0x7F⟩]
  | .digit => [⟨0x30, 0x39⟩]
  | .graph => [⟨0x21, 0x7E⟩]
  | .lower => [⟨0x61, 0x7A⟩]
  | .print => [⟨0x20, 0x7E⟩]
  | .punct => [⟨0x21, 0x2F⟩, ⟨0x3A, 0x40⟩, ⟨0x5B, 0x60⟩, ⟨0x7B, 0x7E⟩]
  | .space => [⟨0x09, 0x0D⟩, ⟨0x20, 0x20⟩]
  | .upper => [⟨0x41, 0x5A⟩]
  | .word => [⟨0x30, 0x39⟩, ⟨0x41, 0x5A⟩, ⟨0x5F, 0x5F⟩, ⟨0x61, 0x7A⟩]
  | .xdigit => [⟨0x30, 0x39⟩, ⟨0x41, 0x46⟩, ⟨0x61, 0x66⟩]

/-- The ASCII ranges of a Perl class. -/
def perlAscii : PerlKind → List CodeRange
  | .digit => asciiRanges .digit
  | .space => asciiRanges .space
  | .word => asciiRanges .word

/-- The Unicode set of a Perl class. -/
def perlUnicode : PerlKind → List CodeRange
  | .digit => perlDigit
  | .space => perlSpace
  | .word => perlWord

/-- The other-case ranges of the ASCII letters in a range. -/
def CodeRange.asciiCaseVariants (r : CodeRange) : List CodeRange :=
  (if max r.lo 0x61 ≤ min r.hi 0x7A then [⟨max r.lo 0x61 - 32, min r.hi 0x7A - 32⟩] else []) ++
  (if max r.lo 0x41 ≤ min r.hi 0x5A then [⟨max r.lo 0x41 + 32, min r.hi 0x5A + 32⟩] else [])

/-- A byte set closed under ASCII case folding. -/
def asciiCaseFold (rs : List CodeRange) : List CodeRange :=
  canonicalize (rs ++ rs.flatMap CodeRange.asciiCaseVariants)

/-- Stops with a mistake. -/
def mistake {α : Type} (k : ErrorKind) (span : Span) : Except Error α := .error { kind := k, span }

/-- Folds case when the flags ask for it, then negates: a character class. -/
def foldNegateChars (f : Flags) (negated : Bool) (rs : List CodeRange) : List CodeRange :=
  let rs := if f.fold then caseFold rs else rs
  if negated then negate Bound.char rs else rs

/-- Folds case when the flags ask for it, then negates: a byte class, which
must stay ASCII. -/
def foldNegateBytes (f : Flags) (span : Span) (negated : Bool) (rs : List CodeRange) :
    Except Error (List CodeRange) :=
  let rs := if f.fold then asciiCaseFold rs else rs
  let rs := if negated then negate Bound.byte rs else rs
  if isAscii rs then .ok rs else mistake .invalidUtf8 span

/-- The set of a `\p` class. -/
def unicodeClassSet (f : Flags) (u : UnicodeClass) : Except Error (List CodeRange) := do
  if !f.unicode then mistake .unicodeNotAllowed u.span
  let query : ClassQuery := match u.kind with
    | .oneLetter c => .oneLetter c
    | .named n => .named n
    | .byValue n v _ => .byValue n v
  match query.set with
  | .ok rs => .ok (foldNegateChars f u.isNegated rs)
  | .error .propertyNotFound => mistake .unicodePropertyNotFound u.span
  | .error .propertyValueNotFound => mistake .unicodePropertyValueNotFound u.span

/-- The set of a Perl class: Unicode, or ASCII bytes, which must stay ASCII
when negated. -/
def perlClassSet (f : Flags) (span : Span) (k : PerlKind) (negated : Bool) :
    Except Error (List CodeRange) :=
  if f.unicode then .ok (if negated then negate Bound.char (perlUnicode k) else perlUnicode k)
  else
    let rs := if negated then negate Bound.byte (perlAscii k) else perlAscii k
    if isAscii rs then .ok rs else mistake .invalidUtf8 span

/-- The character a literal stands for. With Unicode off, a `\x` escape above
`7F` would be a byte outside UTF-8. -/
def literalChar (f : Flags) (l : Literal) : Except Error Char :=
  if !f.unicode && l.kind == .byteEscape && 0x7F < l.c.toNat then mistake .invalidUtf8 l.span
  else .ok l.c

/-- The byte of a literal inside a byte class: an ASCII character. -/
def classByte (f : Flags) (l : Literal) : Except Error Nat := do
  let c ← literalChar f l
  if c.toNat ≤ 0x7F then .ok c.toNat else mistake .unicodeNotAllowed l.span

/-- The bound of the kind of set the flags make. -/
def Flags.bound (f : Flags) : Bound := if f.unicode then Bound.char else Bound.byte

/-- Folds case in a set the way the flags' kind of class does. -/
def Flags.foldSet (f : Flags) (rs : List CodeRange) : List CodeRange :=
  if !f.fold then rs else if f.unicode then caseFold rs else asciiCaseFold rs

/-- Applies a class operator. -/
def ClassOp.apply (b : Bound) : ClassOp → List CodeRange → List CodeRange → List CodeRange
  | .inter, l, r => intersect l r
  | .diff, l, r => difference b l r
  | .symDiff, l, r => symmetricDifference b l r

mutual
/-- The set of a class item. -/
def ClassItem.toSet (f : Flags) : ClassItem → Except Error (List CodeRange)
  | .empty _ => .ok []
  | .literal l =>
    if f.unicode then .ok [⟨l.c.toNat, l.c.toNat⟩]
    else do
      let b ← classByte f l
      .ok [⟨b, b⟩]
  | .range _ lo hi =>
    if f.unicode then .ok [CodeRange.create lo.c.toNat hi.c.toNat]
    else do
      let a ← classByte f lo
      let b ← classByte f hi
      .ok [CodeRange.create a b]
  | .ascii span k negated =>
    if f.unicode then .ok (foldNegateChars f negated (asciiRanges k))
    else foldNegateBytes f span negated (asciiRanges k)
  | .unicode u => unicodeClassSet f u
  | .perl span k negated => perlClassSet f span k negated
  | .bracketed span negated body => do
    let inner := canonicalize (← ClassSet.toSet f body)
    if f.unicode then .ok (foldNegateChars f negated inner)
    else foldNegateBytes f span negated inner
  | .union _ items => ClassItem.unionAll f [] items

/-- The union of the sets of class items, added to `acc` one by one. -/
def ClassItem.unionAll (f : Flags) (acc : List CodeRange) :
    List ClassItem → Except Error (List CodeRange)
  | [] => .ok acc
  | i :: rest => do
    let s ← ClassItem.toSet f i
    ClassItem.unionAll f (union acc s) rest

/-- The set of a class body: an operator folds case in both sides first. -/
def ClassSet.toSet (f : Flags) : ClassSet → Except Error (List CodeRange)
  | .item i => ClassItem.toSet f i
  | .op _ kind lhs rhs => do
    let l := canonicalize (← ClassSet.toSet f lhs)
    let r := canonicalize (← ClassSet.toSet f rhs)
    .ok (kind.apply f.bound (f.foldSet l) (f.foldSet r))
end

/-! ## §3. Expressions -/

/-- The look an assertion stands for under the flags. -/
def assertionLook (f : Flags) (span : Span) : AssertionKind → Except Error Look
  | .startLine =>
    .ok (if f.multiLine then (if f.crlf then .lineStartCRLF else .lineStartLF) else .textStart)
  | .endLine =>
    .ok (if f.multiLine then (if f.crlf then .lineEndCRLF else .lineEndLF) else .textEnd)
  | .startText => .ok .textStart
  | .endText => .ok .textEnd
  | .wordBoundary => .ok (if f.unicode then .wordUnicode else .wordAscii)
  | .notWordBoundary =>
    if f.unicode then .ok .wordUnicodeNegate else mistake .invalidUtf8 span
  | .wordStart | .wordStartAngle => .ok (if f.unicode then .wordStartUnicode else .wordStartAscii)
  | .wordEnd | .wordEndAngle => .ok (if f.unicode then .wordEndUnicode else .wordEndAscii)
  | .wordStartHalf => .ok (if f.unicode then .wordStartHalfUnicode else .wordStartHalfAscii)
  | .wordEndHalf => .ok (if f.unicode then .wordEndHalfUnicode else .wordEndHalfAscii)

/-- What `.` matches under the flags. -/
def dotHir (f : Flags) (span : Span) : Except Error Hir :=
  if !f.unicode then mistake .invalidUtf8 span
  else if f.dotNewline then .ok (Hir.ofClass .chars [⟨0, 0x10FFFF⟩])
  else if f.crlf then .ok (Hir.ofClass .chars [⟨0, 0x09⟩, ⟨0x0B, 0x0C⟩, ⟨0x0E, 0x10FFFF⟩])
  else .ok (Hir.ofClass .chars (negate Bound.char [⟨0x0A, 0x0A⟩]))

/-- A literal under the flags: with case folding, the class of its case
variants when it has any. -/
def literalHir (f : Flags) (l : Literal) : Except Error Hir := do
  let c ← literalChar f l
  let one : List CodeRange := [⟨c.toNat, c.toNat⟩]
  if !f.fold then return .literal [c]
  if f.unicode then
    return if hasCaseFold ⟨c.toNat, c.toNat⟩ then Hir.ofClass .chars (caseFold one) else .literal [c]
  if c.toNat ≤ 0x7F then return Hir.ofClass .bytes (asciiCaseFold one)
  return .literal [c]

/-- The bounds of a repetition. -/
def RepKind.bounds : RepKind → Nat × Option Nat
  | .zeroOrOne => (0, some 1)
  | .zeroOrMore => (0, none)
  | .oneOrMore => (1, none)
  | .exactly n => (n, some n)
  | .atLeast n => (n, none)
  | .bounded m n => (m, some n)

mutual
/-- Translates an expression under the flags in force; gives the flags in force
after it, which a flag change alters. -/
def Ast.translate (f : Flags) : Ast → Except Error (Hir × Flags)
  | .empty _ => .ok (.empty, f)
  | .flags _ items => .ok (.empty, f.apply items)
  | .literal l => do return (← literalHir f l, f)
  | .dot span => do return (← dotHir f span, f)
  | .assertion span k => do return (.look (← assertionLook f span k), f)
  | .unicodeClass u => do return (Hir.ofClass .chars (← unicodeClassSet f u), f)
  | .perlClass span k negated => do
    let rs ← perlClassSet f span k negated
    return (Hir.ofClass (if f.unicode then .chars else .bytes) rs, f)
  | .bracketed span negated body => do
    let inner := canonicalize (← ClassSet.toSet f body)
    if f.unicode then return (Hir.ofClass .chars (foldNegateChars f negated inner), f)
    else return (Hir.ofClass .bytes (← foldNegateBytes f span negated inner), f)
  | .repetition _ kind greedy sub => do
    let (h, _) ← Ast.translate f sub
    let (lo, hi) := kind.bounds
    return (Hir.mkRepetition lo hi (greedy != f.swapGreed) h, f)
  | .group _ kind sub => do
    match kind with
    | .capture index name =>
      let (h, _) ← Ast.translate f sub
      return (.capture index name h, f)
    | .nonCapturing items =>
      let (h, _) ← Ast.translate (f.apply items) sub
      return (h, f)
  | .concat _ items => do
    let (hs, f') ← Ast.translateAll f items
    return (Hir.mkConcat hs, f')
  | .alternation _ branches => do
    let (hs, f') ← Ast.translateAll f branches
    return (Hir.mkAlternation hs, f')

/-- Translates expressions in order, the flags of each passed to the next. -/
def Ast.translateAll (f : Flags) : List Ast → Except Error (List Hir × Flags)
  | [] => .ok ([], f)
  | a :: rest => do
    let (h, f1) ← Ast.translate f a
    let (hs, f2) ← Ast.translateAll f1 rest
    return (h :: hs, f2)
end

/-- Translates a whole pattern, starting from the default flags. -/
def translate (a : Ast) : Except Error Hir := do
  let (h, _) ← a.translate {}
  return h

end ShapeKit.Regex
