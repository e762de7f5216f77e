import ShapeKit.Regex.Parse
import ShapeKit.Regex.Translate
import ShapeKit.Regex.Automaton

/-!
# Regular expressions: matching

A pattern is compiled in three steps, each of which can refuse it: parsing
(with the nesting check), translation to the normal form, and the size check of
the automaton it would compile to. A refusal is reported by its message.

A text matches a pattern when some stretch of it does. The matcher works on
sets of positions: `ends t h ps` is the set of positions where a match of `h`
that starts at one of `ps` can end. Literals and classes step over characters,
a sequence threads the set through its pieces, an alternation unites its
branches, and a repetition iterates; an unbounded repetition stops adding as
soon as a round brings no new position, which happens within `|t| + 1` rounds
because there are only that many positions. Looks filter the set.

`ends` distributes over union of start sets, so the text matches exactly when
starting from every position at once reaches some end.
-/

namespace ShapeKit.Regex

open Unicode

/-! ## §1. Looks -/

/-- Whether the character at a position is an ASCII word character. -/
def asciiWordAt (t : Array Char) (p : Nat) : Bool :=
  match t[p]? with
  | some c => c.toNat < 128 && (c.isAlphanum || c == '_')
  | none => false

/-- Whether the character at a position is a Unicode word character. -/
def unicodeWordAt (t : Array Char) (p : Nat) : Bool :=
  match t[p]? with
  | some c => isWordChar c
  | none => false

/-- Whether a look holds at a position of the text. -/
def Look.holds (t : Array Char) (p : Nat) : Look → Bool
  | .textStart => p == 0
  | .textEnd => p == t.size
  | .lineStartLF => p == 0 || t[p - 1]? == some '\n'
  | .lineEndLF => p == t.size || t[p]? == some '\n'
  | .lineStartCRLF =>
    p == 0 || t[p - 1]? == some '\n' || (t[p - 1]? == some '\r' && t[p]? != some '\n')
  | .lineEndCRLF =>
    p == t.size || t[p]? == some '\r' || (t[p]? == some '\n' && (p == 0 || t[p - 1]? != some '\r'))
  | .wordAscii => asciiBefore t p != asciiWordAt t p
  | .wordAsciiNegate => asciiBefore t p == asciiWordAt t p
  | .wordUnicode => unicodeBefore t p != unicodeWordAt t p
  | .wordUnicodeNegate => unicodeBefore t p == unicodeWordAt t p
  | .wordStartAscii => !asciiBefore t p && asciiWordAt t p
  | .wordEndAscii => asciiBefore t p && !asciiWordAt t p
  | .wordStartUnicode => !unicodeBefore t p && unicodeWordAt t p
  | .wordEndUnicode => unicodeBefore t p && !unicodeWordAt t p
  | .wordStartHalfAscii => !asciiBefore t p
  | .wordEndHalfAscii => !asciiWordAt t p
  | .wordStartHalfUnicode => !unicodeBefore t p
  | .wordEndHalfUnicode => !unicodeWordAt t p
where
  asciiBefore (t : Array Char) (p : Nat) : Bool := p > 0 && asciiWordAt t (p - 1)
  unicodeBefore (t : Array Char) (p : Nat) : Bool := p > 0 && unicodeWordAt t (p - 1)

/-! ## §2. Positions -/

/-- Adds positions to a set, keeping it free of repeats. -/
def addAll (acc new : List Nat) : List Nat :=
  new.foldl (fun a p => if a.contains p then a else a ++ [p]) acc

/-- The positions after the character at each position that passes a test. -/
def stepChar (t : Array Char) (test : Char → Bool) (ps : List Nat) : List Nat :=
  addAll [] (ps.filterMap fun p =>
    match t[p]? with
    | some c => if test c then some (p + 1) else none
    | none => none)

/-- Whether a text stands at a position. -/
def textAt (t : Array Char) (p : Nat) : List Char → Bool
  | [] => true
  | c :: rest => t[p]? == some c && textAt t (p + 1) rest

/-- The positions after a literal text at each position where it stands. -/
def stepText (t : Array Char) (cs : List Char) (ps : List Nat) : List Nat :=
  addAll [] (ps.filterMap fun p => if textAt t p cs then some (p + cs.length) else none)

/-- Applies a step `k` times, stopping early on the empty set. -/
def iterateStep (f : List Nat → List Nat) : Nat → List Nat → List Nat
  | 0, ps => ps
  | k + 1, ps => if ps.isEmpty then ps else iterateStep f k (f ps)

/-- Adds up to `k` more rounds of a step to a set, stopping when a round
brings nothing new. -/
def extendStep (f : List Nat → List Nat) : Nat → List Nat → List Nat → List Nat
  | 0, acc, _ => acc
  | k + 1, acc, frontier =>
    let next := (f frontier).filter fun p => !acc.contains p
    if next.isEmpty then acc else extendStep f k (addAll acc next) next

mutual
/-- The positions where a match of the expression starting at one of `ps` ends. -/
def ends (t : Array Char) : Hir → List Nat → List Nat
  | .empty, ps => ps
  | .literal cs, ps => stepText t cs ps
  | .cls _ rs, ps => stepChar t (fun c => mem rs c.toNat) ps
  | .look l, ps => ps.filter fun p => l.holds t p
  | .repetition lo hi _ sub, ps =>
    let first := iterateStep (ends t sub) lo ps
    match hi with
    | some m => extendStep (ends t sub) (m - lo) first first
    | none => extendStep (ends t sub) (t.size + 1) first first
  | .capture _ _ sub, ps => ends t sub ps
  | .concat items, ps => endsSeq t items ps
  | .alternation bs, ps => endsAlt t bs ps

/-- Threads a set of positions through a sequence. -/
def endsSeq (t : Array Char) : List Hir → List Nat → List Nat
  | [], ps => ps
  | h :: rest, ps => endsSeq t rest (ends t h ps)

/-- Unites the ends of each alternative. -/
def endsAlt (t : Array Char) : List Hir → List Nat → List Nat
  | [], _ => []
  | h :: rest, ps => addAll (ends t h ps) (endsAlt t rest ps)
end

/-- Whether some stretch of the text matches. -/
def Hir.isMatch (h : Hir) (text : String) : Bool :=
  let t := text.toList.toArray
  !(ends t h (List.range (t.size + 1))).isEmpty

/-! ## §3. Compiled patterns -/

/-- A compiled pattern with its source text. -/
structure Pattern where
  source : String
  hir : Hir

/-- The message of a pattern whose automaton is too big. -/
def tooBigMessage : String := s!"Compiled regex exceeds size limit of {sizeLimit} bytes."

/-- Compiles a pattern: parses it, checks its nesting, translates it and checks
the size of its automaton. A refusal is reported by its full message. -/
def Pattern.compile (source : String) : Except String Pattern :=
  match parse source >>= translate with
  | .error e => .error (e.message source)
  | .ok h => if h.tooBig then .error tooBigMessage else .ok ⟨source, h⟩

/-- Whether some stretch of the text matches the pattern. -/
def Pattern.matches (p : Pattern) (text : String) : Bool := p.hir.isMatch text

end ShapeKit.Regex
