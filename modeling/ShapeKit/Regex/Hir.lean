import ShapeKit.Unicode.CodeSet

/-!
# Regular expressions: the normalized form

A parsed pattern is translated into a smaller language with the flags already
applied: literal text, classes of characters or of ASCII bytes, zero-width
looks, repetitions with explicit bounds, capture groups, sequences and
alternations.

The constructors here normalize as they build, and the size of the automaton a
pattern compiles to depends on that normal form:

* a class of one character is that character as a literal, and an empty class
  is the empty byte class, which matches nothing (`Hir.fail`);
* a sequence drops empty pieces, flattens nested sequences and joins adjacent
  literals; a sequence of one piece is that piece;
* a repetition of something that only matches the empty string repeats at most
  once; `{0}` is empty and `{1}` is the piece itself;
* an alternation flattens nested alternations; an alternation of single
  characters, or of classes, is one class; and when every branch is a sequence
  starting with the same pieces, those pieces are taken out in front.
-/

namespace ShapeKit.Regex

open Unicode

/-! ## §1. Looks -/

/-- The zero-width looks: the ends of the text, the ends of lines (with `\n`
or with `\r\n` as line end), and the word boundaries, with Unicode or ASCII
word characters. -/
inductive Look where
  | textStart | textEnd | lineStartLF | lineEndLF | lineStartCRLF | lineEndCRLF
  | wordAscii | wordAsciiNegate | wordUnicode | wordUnicodeNegate
  | wordStartAscii | wordEndAscii | wordStartUnicode | wordEndUnicode
  | wordStartHalfAscii | wordEndHalfAscii | wordStartHalfUnicode | wordEndHalfUnicode
deriving DecidableEq, Repr

/-! ## §2. Expressions -/

/-- Whether a class is of characters or of bytes. -/
inductive ClassKind where
  | chars
  | bytes
deriving DecidableEq, Repr

/-- A pattern in normal form. A literal is non-empty text; a class holds
ranges of code points or of bytes. -/
inductive Hir where
  | empty
  | literal (text : List Char)
  | cls (kind : ClassKind) (ranges : List CodeRange)
  | look (l : Look)
  | repetition (min : Nat) (max : Option Nat) (greedy : Bool) (sub : Hir)
  | capture (index : Nat) (name : Option String) (sub : Hir)
  | concat (items : List Hir)
  | alternation (branches : List Hir)
deriving Repr, Inhabited

mutual
/-- Structural equality of normal forms. -/
def Hir.beq : Hir → Hir → Bool
  | .empty, .empty => true
  | .literal a, .literal b => a == b
  | .cls k a, .cls l b => k == l && a == b
  | .look a, .look b => a == b
  | .repetition m x g a, .repetition n y h b => m == n && x == y && g == h && Hir.beq a b
  | .capture i n a, .capture j m b => i == j && n == m && Hir.beq a b
  | .concat as, .concat bs => Hir.beqList as bs
  | .alternation as, .alternation bs => Hir.beqList as bs
  | _, _ => false

/-- Structural equality of lists of normal forms. -/
def Hir.beqList : List Hir → List Hir → Bool
  | [], [] => true
  | a :: as, b :: bs => Hir.beq a b && Hir.beqList as bs
  | _, _ => false
end

instance : BEq Hir := ⟨Hir.beq⟩

/-- The expression that matches nothing: the empty byte class. -/
def Hir.fail : Hir := .cls .bytes []

/-! ## §3. Properties -/

/-- The number of bytes a character takes in UTF-8. -/
def utf8Length (c : Char) : Nat :=
  let n := c.toNat
  if n < 0x80 then 1 else if n < 0x800 then 2 else if n < 0x10000 then 3 else 4

/-- The bytes of a text in UTF-8, counted. -/
def textBytes (cs : List Char) : Nat := (cs.map utf8Length).foldl (· + ·) 0

/-- The length in UTF-8 of a code point that is a character. -/
def codeLength (n : Nat) : Nat :=
  if n < 0x80 then 1 else if n < 0x800 then 2 else if n < 0x10000 then 3 else 4

/-- The smallest of two bounds where `none` means no match at all. -/
def minOpt : Option Nat → Option Nat → Option Nat
  | some a, some b => some (min a b)
  | _, _ => none

mutual
/-- The fewest bytes a match can take; `none` when nothing matches. -/
def Hir.minLen : Hir → Option Nat
  | .empty => some 0
  | .literal t => some (textBytes t)
  | .cls .chars rs => rs.head?.map fun r => codeLength r.lo
  | .cls .bytes rs => if rs.isEmpty then none else some 1
  | .look _ => some 0
  | .repetition m _ _ sub => (Hir.minLen sub).map (· * m)
  | .capture _ _ sub => Hir.minLen sub
  | .concat items => Hir.minLenSum items
  | .alternation bs => Hir.minLenAlt bs

/-- The fewest bytes a sequence can take. -/
def Hir.minLenSum : List Hir → Option Nat
  | [] => some 0
  | h :: rest =>
    match Hir.minLen h, Hir.minLenSum rest with
    | some a, some b => some (a + b)
    | _, _ => none

/-- The fewest bytes one branch of an alternation can take; `none` as soon as
some branch has none. -/
def Hir.minLenAlt : List Hir → Option Nat
  | [] => none
  | [h] => Hir.minLen h
  | h :: rest => minOpt (Hir.minLen h) (Hir.minLenAlt rest)
end

mutual
/-- The most bytes a match can take; `none` when there is no bound. -/
def Hir.maxLen : Hir → Option Nat
  | .empty => some 0
  | .literal t => some (textBytes t)
  | .cls .chars rs => rs.getLast?.map fun r => codeLength r.hi
  | .cls .bytes rs => if rs.isEmpty then none else some 1
  | .look _ => some 0
  | .repetition _ x _ sub =>
    match x, Hir.maxLen sub with
    | some n, some a => some (a * n)
    | _, _ => none
  | .capture _ _ sub => Hir.maxLen sub
  | .concat items => Hir.maxLenSum items
  | .alternation bs => Hir.maxLenAlt bs

/-- The most bytes a sequence can take. -/
def Hir.maxLenSum : List Hir → Option Nat
  | [] => some 0
  | h :: rest =>
    match Hir.maxLen h, Hir.maxLenSum rest with
    | some a, some b => some (a + b)
    | _, _ => none

/-- The most bytes one branch of an alternation can take. -/
def Hir.maxLenAlt : List Hir → Option Nat
  | [] => none
  | [h] => Hir.maxLen h
  | h :: rest =>
    match Hir.maxLen h, Hir.maxLenAlt rest with
    | some a, some b => some (max a b)
    | _, _ => none
end

/-- Whether an expression can only match the empty string. -/
def Hir.onlyEmpty (h : Hir) : Bool := h.maxLen == some 0

mutual
/-- Whether every match must begin where `l` holds, because `l` is among the
looks that a match passes before consuming anything. -/
def Hir.prefixHas (l : Look) : Hir → Bool
  | .look k => k == l
  | .repetition m _ _ sub => m > 0 && Hir.prefixHas l sub
  | .capture _ _ sub => Hir.prefixHas l sub
  | .concat items => Hir.prefixHasSeq l items
  | .alternation bs => Hir.prefixHasAll l bs
  | _ => false

/-- The look prefix of a sequence: the pieces up to and including the first
that can consume something. -/
def Hir.prefixHasSeq (l : Look) : List Hir → Bool
  | [] => false
  | h :: rest => Hir.prefixHas l h || (h.onlyEmpty && Hir.prefixHasSeq l rest)

/-- The look prefix of an alternation: the looks every branch has. -/
def Hir.prefixHasAll (l : Look) : List Hir → Bool
  | [] => true
  | h :: rest => Hir.prefixHas l h && Hir.prefixHasAll l rest
end

mutual
/-- Whether every match must end where `l` holds, because `l` is among the
looks that a match passes after consuming everything. -/
def Hir.suffixHas (l : Look) : Hir → Bool
  | .look k => k == l
  | .repetition m _ _ sub => m > 0 && Hir.suffixHas l sub
  | .capture _ _ sub => Hir.suffixHas l sub
  | .concat items => Hir.suffixHasSeq l items
  | .alternation bs => Hir.suffixHasAll l bs
  | _ => false

/-- The look suffix of a sequence: the pieces from the last one that can
consume something on. -/
def Hir.suffixHasSeq (l : Look) : List Hir → Bool
  | [] => false
  | h :: rest => Hir.suffixHasSeq l rest || (rest.all Hir.onlyEmpty && Hir.suffixHas l h)

/-- The look suffix of an alternation. -/
def Hir.suffixHasAll (l : Look) : List Hir → Bool
  | [] => true
  | h :: rest => Hir.suffixHas l h && Hir.suffixHasAll l rest
end

/-! ## §4. Normalizing constructors -/

/-- A class, as a literal when it holds one character and as `fail` when it
is empty. -/
def Hir.ofClass (k : ClassKind) (rs : List CodeRange) : Hir :=
  match rs with
  | [] => Hir.fail
  | [r] => if r.lo == r.hi then .literal [Char.ofNat r.lo] else .cls k rs
  | _ => .cls k rs

/-- Text as an expression; empty text is `empty`. -/
def Hir.ofText (t : List Char) : Hir := if t.isEmpty then .empty else .literal t

/-- Joins the pieces of a sequence: `pending` is literal text not yet placed,
`acc` the pieces placed, newest first. -/
def concatStep (acc : List Hir × List Char) (h : Hir) : List Hir × List Char :=
  let (placed, pending) := acc
  match h with
  | .literal t => (placed, pending ++ t)
  | .empty => (placed, pending)
  | other => (other :: (if pending.isEmpty then placed else .literal pending :: placed), [])

/-- A sequence: nested sequences are flattened, empty pieces dropped and
adjacent literals joined. -/
def Hir.mkConcat (items : List Hir) : Hir :=
  let flat := items.flatMap fun h =>
    match h with
    | .concat inner => inner
    | other => [other]
  let (placed, pending) := flat.foldl concatStep ([], [])
  let all := (if pending.isEmpty then placed else .literal pending :: placed).reverse
  match all with
  | [] => .empty
  | [h] => h
  | hs => .concat hs

/-- A repetition. -/
def Hir.mkRepetition (min : Nat) (max : Option Nat) (greedy : Bool) (sub : Hir) : Hir :=
  let (min, max) :=
    if sub.onlyEmpty then (Nat.min min 1, some ((max.map (Nat.min · 1)).getD 1)) else (min, max)
  if min == 0 && max == some 0 then .empty
  else if min == 1 && max == some 1 then sub
  else .repetition min max greedy sub

/-- The single characters of branches that are all one-character literals. -/
def singletonChars : List Hir → Option (List Char)
  | [] => some []
  | .literal [c] :: rest => (singletonChars rest).map (c :: ·)
  | _ => none

/-- The code points of branches that are all classes: classes of bytes only
when they are ASCII. -/
def classChars : List Hir → Option (List CodeRange)
  | [] => some []
  | .cls .chars rs :: rest => (classChars rest).map (union rs ·)
  | .cls .bytes rs :: rest => if isAscii rs then (classChars rest).map (union rs ·) else none
  | _ => none

/-- The common leading pieces of lists. -/
def commonPrefix : List Hir → List Hir → List Hir
  | a :: as, b :: bs => if a == b then a :: commonPrefix as bs else []
  | _, _ => []

/-- The pieces of sequences, when every branch is a sequence. -/
def concatItems : List Hir → Option (List (List Hir))
  | [] => some []
  | .concat items :: rest => (concatItems rest).map (items :: ·)
  | _ => none

mutual
/-- The number of nodes of an expression. -/
def Hir.size : Hir → Nat
  | .repetition _ _ _ sub => Hir.size sub + 1
  | .capture _ _ sub => Hir.size sub + 1
  | .concat items => Hir.sizeList items + 1
  | .alternation bs => Hir.sizeList bs + 1
  | _ => 1

/-- The number of nodes of a list of expressions. -/
def Hir.sizeList : List Hir → Nat
  | [] => 0
  | h :: rest => Hir.size h + Hir.sizeList rest
end

/-- An alternation: nested alternations are flattened; one-character branches
or class branches become one class; a common leading part of sequence branches
is taken out, and the alternation of what follows it is built the same way.
Each such step leaves fewer nodes, so `fuel` nodes are enough. -/
def mkAlternationFuel : Nat → List Hir → Hir
  | 0, bs => .alternation bs
  | fuel + 1, branches =>
    let flat := branches.flatMap fun h =>
      match h with
      | .alternation inner => inner
      | other => [other]
    match flat with
    | [] => Hir.fail
    | [h] => h
    | _ =>
      match singletonChars flat with
      | some cs => Hir.ofClass .chars (canonicalize (cs.map fun c => ⟨c.toNat, c.toNat⟩))
      | none =>
        match classChars flat with
        | some rs => Hir.ofClass .chars (canonicalize rs)
        | none =>
          match concatItems flat with
          | some (first :: rest) =>
            let pre := rest.foldl commonPrefix first
            if pre.isEmpty then .alternation flat
            else
              let suffixes := (first :: rest).map fun items => Hir.mkConcat (items.drop pre.length)
              Hir.mkConcat (pre ++ [mkAlternationFuel fuel suffixes])
          | _ => .alternation flat

/-- An alternation in normal form. -/
def Hir.mkAlternation (branches : List Hir) : Hir :=
  mkAlternationFuel (Hir.sizeList branches + 1) branches

end ShapeKit.Regex
