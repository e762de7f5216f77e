import ShapeKit.Regex.Error

/-!
# Regular expressions: syntax trees

The parser turns a pattern into a syntax tree that keeps, for every piece, the
stretch of the pattern it was read from. The stretches are what mistakes found
later are reported with: a class that may not stand under the flags in force,
an unknown property, or nesting that goes too deep.

Nesting is measured on the tree: bracketed classes, repetitions, groups,
alternations and sequences each open one level, and so do unions of several
class items, nested brackets and the class operators `&&`, `--`, `~~`. More than
`nestLimit` open levels is a mistake, reported at the piece that opens one level
too many (`checkNesting`).
-/

namespace ShapeKit.Regex

/-! ## §1. Leaves -/

/-- How a literal was written. Only a two-digit `\x` escape can stand for a
single byte, so only that form is told apart. -/
inductive LiteralKind where
  | plain
  | byteEscape
deriving DecidableEq, Repr

/-- A literal character and where it was written. -/
structure Literal where
  span : Span
  kind : LiteralKind
  c : Char
deriving Repr

/-- The zero-width assertions. `wordStartAngle` and `wordEndAngle` are `\<` and
`\>`, which mean the same as `\b{start}` and `\b{end}`. -/
inductive AssertionKind where
  | startLine | endLine | startText | endText | wordBoundary | notWordBoundary
  | wordStart | wordEnd | wordStartAngle | wordEndAngle | wordStartHalf | wordEndHalf
deriving DecidableEq, Repr

/-- The Perl classes `\d`, `\s`, `\w`. -/
inductive PerlKind where
  | digit | space | word
deriving DecidableEq, Repr

/-- The POSIX classes written `[:name:]` inside brackets. -/
inductive AsciiKind where
  | alnum | alpha | ascii | blank | cntrl | digit | graph | lower | print | punct | space
  | upper | word | xdigit
deriving DecidableEq, Repr

/-- What a `\p` class names: one letter, a name, or a property and a value,
the value given after `=`, `:` or `!=` (`notEqual`). -/
inductive UnicodeKind where
  | oneLetter (c : Char)
  | named (name : String)
  | byValue (name value : String) (notEqual : Bool)
deriving Repr

/-- A `\p` or `\P` class. -/
structure UnicodeClass where
  span : Span
  negated : Bool
  kind : UnicodeKind
deriving Repr

/-- Whether a `\p` class is negated: `\P` or `!=`, but not both. -/
def UnicodeClass.isNegated (u : UnicodeClass) : Bool :=
  match u.kind with
  | .byValue _ _ true => !u.negated
  | _ => u.negated

/-- The set operators inside brackets. -/
inductive ClassOp where
  | inter | diff | symDiff
deriving DecidableEq, Repr

/-! ## §2. Classes -/

mutual
/-- An item inside brackets. -/
inductive ClassItem where
  | empty (span : Span)
  | literal (lit : Literal)
  | range (span : Span) (lo hi : Literal)
  | ascii (span : Span) (kind : AsciiKind) (negated : Bool)
  | unicode (cls : UnicodeClass)
  | perl (span : Span) (kind : PerlKind) (negated : Bool)
  | bracketed (span : Span) (negated : Bool) (body : ClassSet)
  | union (span : Span) (items : List ClassItem)

/-- The body of brackets: an item, or an operator between two bodies. -/
inductive ClassSet where
  | item (i : ClassItem)
  | op (span : Span) (kind : ClassOp) (lhs rhs : ClassSet)
end

/-- Where a class item stands. -/
def ClassItem.span : ClassItem → Span
  | .empty s | .range s _ _ | .ascii s _ _ | .perl s _ _ | .bracketed s _ _ | .union s _ => s
  | .literal l => l.span
  | .unicode u => u.span

/-- Where a class body stands. -/
def ClassSet.span : ClassSet → Span
  | .item i => i.span
  | .op s _ _ _ => s

/-! ## §3. Expressions -/

/-- A flag letter, or the `-` that turns the letters after it off. -/
inductive FlagItem where
  | negation
  | flag (c : Char)
deriving DecidableEq, Repr

/-- What a group does: capture (with its number and maybe a name), or only
change flags for its body. -/
inductive GroupKind where
  | capture (index : Nat) (name : Option String)
  | nonCapturing (flags : List FlagItem)
deriving Repr

/-- How many times a repetition repeats. -/
inductive RepKind where
  | zeroOrOne | zeroOrMore | oneOrMore
  | exactly (n : Nat) | atLeast (n : Nat) | bounded (m n : Nat)
deriving DecidableEq, Repr

/-- A parsed pattern. `flags` is a flag change `(?i)`, which holds to the end of
the enclosing group. -/
inductive Ast where
  | empty (span : Span)
  | flags (span : Span) (items : List FlagItem)
  | literal (lit : Literal)
  | dot (span : Span)
  | assertion (span : Span) (kind : AssertionKind)
  | unicodeClass (cls : UnicodeClass)
  | perlClass (span : Span) (kind : PerlKind) (negated : Bool)
  | bracketed (span : Span) (negated : Bool) (body : ClassSet)
  | repetition (span : Span) (kind : RepKind) (greedy : Bool) (sub : Ast)
  | group (span : Span) (kind : GroupKind) (sub : Ast)
  | alternation (span : Span) (branches : List Ast)
  | concat (span : Span) (items : List Ast)
deriving Inhabited

/-- Where an expression stands. -/
def Ast.span : Ast → Span
  | .empty s | .flags s _ | .dot s | .assertion s _ | .perlClass s _ _ | .bracketed s _ _
  | .repetition s _ _ _ | .group s _ _ | .alternation s _ | .concat s _ => s
  | .literal l => l.span
  | .unicodeClass u => u.span

/-- An expression with a new end. -/
def Ast.withStop (a : Ast) (stop : Nat) : Span := ⟨a.span.start, stop⟩

/-! ## §4. Nesting -/

/-- The deepest nesting a pattern may have. -/
def nestLimit : Nat := 250

/-- One level deeper at a piece that opens one. -/
def deeper (depth : Nat) (span : Span) : Except Error Nat :=
  if depth + 1 > nestLimit then .error { kind := .nestLimitExceeded nestLimit, span }
  else .ok (depth + 1)

mutual
/-- Checks the nesting of a class item found at `depth` open levels. -/
def ClassItem.checkNesting (depth : Nat) : ClassItem → Except Error Unit
  | .bracketed span _ body => do ClassSet.checkNesting (← deeper depth span) body
  | .union span items => do ClassItem.checkAll (← deeper depth span) items
  | _ => .ok ()

/-- Checks the nesting of each item of a list. -/
def ClassItem.checkAll (depth : Nat) : List ClassItem → Except Error Unit
  | [] => .ok ()
  | i :: rest => do
    ClassItem.checkNesting depth i
    ClassItem.checkAll depth rest

/-- Checks the nesting of a class body. -/
def ClassSet.checkNesting (depth : Nat) : ClassSet → Except Error Unit
  | .item i => ClassItem.checkNesting depth i
  | .op span _ lhs rhs => do
    let d ← deeper depth span
    ClassSet.checkNesting d lhs
    ClassSet.checkNesting d rhs
end

mutual
/-- Checks the nesting of an expression found at `depth` open levels; the first
piece, in reading order, that opens a level past the limit is the mistake. -/
def Ast.checkNesting (depth : Nat) : Ast → Except Error Unit
  | .bracketed span _ body => do ClassSet.checkNesting (← deeper depth span) body
  | .repetition span _ _ sub => do Ast.checkNesting (← deeper depth span) sub
  | .group span _ sub => do Ast.checkNesting (← deeper depth span) sub
  | .alternation span branches => do Ast.checkAll (← deeper depth span) branches
  | .concat span items => do Ast.checkAll (← deeper depth span) items
  | _ => .ok ()

/-- Checks the nesting of each expression of a list. -/
def Ast.checkAll (depth : Nat) : List Ast → Except Error Unit
  | [] => .ok ()
  | a :: rest => do
    Ast.checkNesting depth a
    Ast.checkAll depth rest
end

/-- Checks that a pattern nests no deeper than `nestLimit`. -/
def checkNesting (a : Ast) : Except Error Unit := a.checkNesting 0

end ShapeKit.Regex
