import ShapeKit.Regex.Hir

/-!
# Regular expressions: the size of the compiled automaton

A pattern is refused when the automaton it compiles to would take more than
`sizeLimit` bytes. The automaton is built twice, once to read forwards (with a
state at each end of every capture group) and once to read backwards (without
captures), and each build is refused as soon as it passes the limit. This
module counts what each build adds, state by state, in the order the states are
made: every state takes 32 bytes, a sparse state 8 more per byte range, and an
alternation state 4 more per alternative.

Most pieces compile to a fixed shape (a literal to one state per byte, `x?` to
an alternation and an empty state, `x{n}` to `n` copies of `x`, and so on). A
class of characters beyond ASCII compiles to an automaton over its UTF-8
encodings, which shares states through bounded caches: forwards, identical
states are looked up in a table of `10000` slots keyed by a hash of their
transitions; backwards, common tails of encodings are looked up in a table of
`1000` slots. A slot holds one entry, so which states are shared depends on the
numbers of the states; the count here follows the numbering exactly. An
alternation of literals compiles to a trie of their bytes.

Unless every match must begin at the start of the text (or end at its end, when
building backwards), the automaton starts with a loop over any byte.
-/

namespace ShapeKit.Regex

open Unicode

/-! ## §1. UTF-8 encodings of code point ranges -/

/-- A range of byte values. -/
structure ByteRange where
  lo : Nat
  hi : Nat
deriving DecidableEq, Repr

/-- The UTF-8 bytes of a code point. -/
def utf8Bytes (n : Nat) : List Nat :=
  if n < 0x80 then [n]
  else if n < 0x800 then [0xC0 + n / 64, 0x80 + n % 64]
  else if n < 0x10000 then [0xE0 + n / 4096, 0x80 + n / 64 % 64, 0x80 + n % 64]
  else [0xF0 + n / 262144, 0x80 + n / 4096 % 64, 0x80 + n / 64 % 64, 0x80 + n % 64]

/-- The largest code point with an encoding of `n` bytes. -/
def maxScalar : Nat → Nat
  | 1 => 0x7F
  | 2 => 0x7FF
  | 3 => 0xFFFF
  | _ => 0x10FFFF

/-- The first encoding length at which a range must be cut, with the place to
cut it. -/
def lengthCut (lo hi : Nat) : Option Nat :=
  [1, 2, 3].findSome? fun i =>
    let m := maxScalar i
    if lo ≤ m && m < hi then some m else none

/-- The first continuation-byte boundary at which a range must be cut so that
every code point of a piece shares its leading bytes: gives the end of the
first piece. -/
def blockCut (lo hi : Nat) : Option Nat :=
  [1, 2, 3].findSome? fun i =>
    let size := Nat.pow 2 (6 * i)
    let m := size - 1
    if lo - lo % size != hi - hi % size then
      if lo % size != 0 then some (lo - lo % size + m)
      else if hi % size != m then some (hi - hi % size - 1)
      else none
    else none

/-- Splits one range until its first piece has a single byte-range encoding:
gives that encoding, if the range was not empty, and the pieces left over,
pushed on the stack. -/
def splitFirst (stack : List (Nat × Nat)) : Nat → Nat → Nat → Option (List ByteRange) × List (Nat × Nat)
  | 0, _, _ => (none, stack)
  | fuel + 1, lo, hi =>
    if lo < 0xE000 && hi > 0xD7FF then splitFirst ((0xE000, hi) :: stack) fuel lo 0xD7FF
    else if hi < lo then (none, stack)
    else
      match lengthCut lo hi with
      | some m => splitFirst ((m + 1, hi) :: stack) fuel lo m
      | none =>
        if hi ≤ 0x7F then (some [⟨lo, hi⟩], stack)
        else
          match blockCut lo hi with
          | some e => splitFirst ((e + 1, hi) :: stack) fuel lo e
          | none =>
            (some ((utf8Bytes lo).zip (utf8Bytes hi) |>.map fun (a, b) => ⟨a, b⟩), stack)

/-- The encodings of the ranges on a stack, in order. -/
def sequencesOf : Nat → List (Nat × Nat) → List (List ByteRange)
  | 0, _ => []
  | _ + 1, [] => []
  | fuel + 1, (lo, hi) :: rest =>
    match splitFirst rest 32 lo hi with
    | (some seq, stack) => seq :: sequencesOf fuel stack
    | (none, stack) => sequencesOf fuel stack

/-- The UTF-8 encodings of a range of code points, as sequences of byte ranges:
every code point of the range is encoded by exactly one sequence. -/
def utf8Sequences (lo hi : Nat) : List (List ByteRange) := sequencesOf 1024 [(lo, hi)]

/-! ## §2. What is compiled -/

/-- A pattern prepared for counting: literals as bytes, classes as the number
of their ranges or as the encodings of their code points, and each repetition
with the fewest bytes its body can match. -/
inductive Piece where
  | empty
  | literal (bytes : List Nat)
  | byteClass (ranges : Nat)
  | charClass (seqs : List (List ByteRange))
  | look
  | repetition (min : Nat) (max : Option Nat) (greedy : Bool) (subMin : Option Nat) (sub : Piece)
  | capture (sub : Piece)
  | concat (items : List Piece)
  | alternation (branches : List Piece)
  | literals (texts : List (List Nat))

/-- The text of a literal branch. -/
def literalText? : Hir → Option (List Char)
  | .literal t => some t
  | _ => none

mutual
/-- Prepares a pattern for counting. -/
def Hir.toPiece : Hir → Piece
  | .empty => .empty
  | .literal t => .literal (t.flatMap fun c => utf8Bytes c.toNat)
  | .cls k rs =>
    if k == .bytes || isAscii rs then .byteClass rs.length
    else .charClass (rs.flatMap fun r => utf8Sequences r.lo r.hi)
  | .look _ => .look
  | .repetition m x g sub => .repetition m x g sub.minLen (Hir.toPiece sub)
  | .capture _ _ sub => .capture (Hir.toPiece sub)
  | .concat items => .concat (Hir.toPieces items)
  | .alternation bs =>
    match bs.mapM literalText? with
    | some ts => if ts.length ≥ 2 then .literals (ts.map fun t => t.flatMap fun c => utf8Bytes c.toNat)
      else .alternation (Hir.toPieces bs)
    | none => .alternation (Hir.toPieces bs)

/-- Prepares a list of patterns. -/
def Hir.toPieces : List Hir → List Piece
  | [] => []
  | h :: rest => Hir.toPiece h :: Hir.toPieces rest
end

/-! ## §3. Counting -/

/-- The most bytes a compiled automaton may take. -/
def sizeLimit : Nat := 10485760

/-- A byte-range transition of a sparse state. -/
structure Transition where
  lo : Nat
  hi : Nat
  next : Nat
deriving DecidableEq, Repr

/-- A slot of the forward cache: the table version it was written in, the
transitions of a state and the state's number. -/
structure StateSlot where
  version : Nat
  key : List Transition
  state : Nat

/-- A slot of the backward cache: the table version, the state a byte range
leads to, the range, and the number of the state reading it. -/
structure TailSlot where
  version : Nat
  target : Nat
  lo : Nat
  hi : Nat
  state : Nat

/-- A state of the forward encoding automaton still being built: its finished
transitions and the range of its last, whose target is not known yet. -/
structure OpenNode where
  trans : List Transition
  last : Option ByteRange
deriving Inhabited

/-- What a build has made so far: the number of states, the bytes they take,
and the caches. -/
structure Tally where
  states : Nat := 0
  bytes : Nat := 0
  backward : Bool
  stateCache : Array (Option StateSlot) := Array.replicate 10000 none
  stateVersion : Nat := 0
  stateCacheUsed : Bool := false
  tailCache : Array (Option TailSlot) := Array.replicate 1000 none
  tailVersion : Nat := 0
  tailCacheUsed : Bool := false
  nodes : Array OpenNode := #[]

/-- A counting step; it fails as soon as the limit is passed. -/
abbrev Count := StateT Tally (Except Unit)

/-- Adds bytes to the count. -/
def grow (n : Nat) : Count Unit := do
  let t ← get
  if t.bytes + n > sizeLimit then throw ()
  set { t with bytes := t.bytes + n }

/-- Adds a state taking `extra` bytes beyond its own 32; gives its number. -/
def addState (extra : Nat) : Count Nat := do
  let t ← get
  let bytes := t.bytes + 32 + extra
  if bytes > sizeLimit then throw ()
  set { t with states := t.states + 1, bytes }
  return t.states

/-- A compiled piece: its first state, its last state, and whether the last
state is an alternation, which grows by an alternative when it is linked on. -/
structure Frag where
  start : Nat
  stop : Nat
  stopIsAlt : Bool

/-- Links the last state of a piece to the next: an alternation grows. -/
def link (f : Frag) : Count Unit := if f.stopIsAlt then grow 4 else pure ()

/-- A state with no transition of its own. -/
def emptyFrag : Count Frag := do
  let id ← addState 0
  return ⟨id, id, false⟩

/-- One state per byte of a literal. -/
def literalFrag (bytes : List Nat) : Count Frag := do
  match bytes with
  | [] => emptyFrag
  | _ :: rest =>
    let first ← addState 0
    let mut last := first
    for _ in rest do
      last ← addState 0
    return ⟨first, last, false⟩

/-- A class of byte ranges: an empty state and a sparse state. -/
def byteClassFrag (ranges : Nat) : Count Frag := do
  let stop ← addState 0
  let start ← addState (8 * ranges)
  return ⟨start, stop, false⟩

/-! ### Forward encodings -/

/-- The FNV-1a hash of the transitions of a state. -/
def hashTransitions (ts : List Transition) : Nat :=
  let prime : UInt64 := 1099511628211
  let h := ts.foldl (fun (h : UInt64) t =>
    let h := (h ^^^ t.lo.toUInt64) * prime
    let h := (h ^^^ t.hi.toUInt64) * prime
    (h ^^^ t.next.toUInt64) * prime) 14695981039346656037
  h.toNat % 10000

/-- The state with some transitions: shared from the cache when the slot of
their hash holds them, else made and put in that slot. -/
def sparseState (ts : List Transition) : Count Nat := do
  let h := hashTransitions ts
  let t ← get
  match t.stateCache[h]? with
  | some (some slot) =>
    if slot.version == t.stateVersion && slot.key == ts then return slot.state
  | _ => pure ()
  let id ← addState (8 * ts.length)
  modify fun t => { t with stateCache := t.stateCache.set! h (some ⟨t.stateVersion, ts, id⟩) }
  return id

/-- Closes an open node: its last range goes to `next`. -/
def OpenNode.close (n : OpenNode) (next : Nat) : List Transition :=
  match n.last with
  | some r => n.trans ++ [⟨r.lo, r.hi, next⟩]
  | none => n.trans

/-- Compiles the open nodes past the first `keep`, deepest first, each leading
to the one compiled before it and the deepest to `target`; the node at `keep`
gets its last range closed on the last state made. -/
def compileFrom (target keep : Nat) : Count Unit := do
  let mut next := target
  let depth := (← get).nodes.size
  for _ in List.range depth do
    let t ← get
    if keep + 1 < t.nodes.size then
      let node := t.nodes.back!
      modify fun t => { t with nodes := t.nodes.pop }
      next ← sparseState (node.close next)
  modify fun t =>
    let top := t.nodes.back!
    { t with nodes := t.nodes.pop.push ⟨top.close next, none⟩ }

/-- The length of the common start of an encoding and the open nodes' last
ranges. -/
def sharedStart (nodes : Array OpenNode) (seq : List ByteRange) : Nat :=
  ((seq.zip nodes.toList).takeWhile fun (r, n) => n.last == some r).length

/-- Adds one encoding to the forward automaton. -/
def addSequence (target : Nat) (seq : List ByteRange) : Count Unit := do
  let keep := sharedStart (← get).nodes seq
  compileFrom target keep
  match seq.drop keep with
  | [] => pure ()
  | first :: rest =>
    modify fun t =>
      let top := t.nodes.back!
      let nodes := t.nodes.pop.push { top with last := some first }
      { t with nodes := rest.foldl (fun ns r => ns.push ⟨[], some r⟩) nodes }

/-- A class of characters read forwards: a shared automaton over its
encodings, ending in one empty state. -/
def charClassForward (seqs : List (List ByteRange)) : Count Frag := do
  let target ← addState 0
  modify fun t =>
    let (version, used) :=
      if !t.stateCacheUsed then (t.stateVersion, true)
      else ((t.stateVersion + 1) % 65536, true)
    let cache := if t.stateCacheUsed && version == 0 then Array.replicate 10000 none else t.stateCache
    { t with stateVersion := version, stateCacheUsed := used, stateCache := cache,
             nodes := #[⟨[], none⟩] }
  for seq in seqs do
    addSequence target seq
  compileFrom target 0
  let root := (← get).nodes.back!
  modify fun t => { t with nodes := #[] }
  let start ← sparseState root.trans
  return ⟨start, target, false⟩

/-! ### Backward encodings -/

/-- The FNV-1a hash of a tail key. -/
def hashTail (target lo hi : Nat) : Nat :=
  let prime : UInt64 := 1099511628211
  let h : UInt64 := 14695981039346656037
  let h := (h ^^^ target.toUInt64) * prime
  let h := (h ^^^ lo.toUInt64) * prime
  let h := (h ^^^ hi.toUInt64) * prime
  h.toNat % 1000

/-- The state reading a byte range before `target`, shared through the tail
cache. -/
def tailState (target : Nat) (r : ByteRange) : Count Nat := do
  let h := hashTail target r.lo r.hi
  let t ← get
  match t.tailCache[h]? with
  | some (some slot) =>
    if slot.version == t.tailVersion && slot.target == target && slot.lo == r.lo && slot.hi == r.hi then
      return slot.state
  | _ => pure ()
  let id ← addState 0
  modify fun t => { t with tailCache := t.tailCache.set! h (some ⟨t.tailVersion, target, r.lo, r.hi, id⟩) }
  return id

/-- A class of characters read backwards: an alternation of chains of byte
ranges, one per encoding, read last byte first, that share their tails. -/
def charClassBackward (seqs : List (List ByteRange)) : Count Frag := do
  modify fun t =>
    if t.tailCacheUsed then { t with tailVersion := t.tailVersion + 1 }
    else { t with tailCacheUsed := true }
  let alt ← addState 0
  let stop ← addState 0
  for seq in seqs do
    let mut target := stop
    for r in seq do
      target ← tailState target r
    grow 4
  return ⟨alt, stop, false⟩

/-! ### Tries of literals -/

/-- A state of a trie of literals: its transitions on bytes, sorted within each
chunk, and the chunks, which end where a literal ends. -/
structure TrieState where
  trans : Array (Nat × Nat) := #[]
  chunks : Array (Nat × Nat) := #[]
deriving Inhabited

/-- Where the chunk still open starts. -/
def TrieState.activeStart (s : TrieState) : Nat := (s.chunks.back?.map (·.2)).getD 0

/-- The position in `trans`, from `from`, of the first transition whose byte is
not below `b`. -/
def insertionPoint (trans : Array (Nat × Nat)) (b : Nat) (start : Nat) : Nat :=
  start + ((trans.toList.drop start).takeWhile fun (c, _) => c < b).length

/-- Follows the transition on a byte from a trie state, adding a state when
there is none. -/
def trieStep (states : Array TrieState) (from_ b : Nat) : Array TrieState × Nat :=
  let s := states[from_]!
  let i := insertionPoint s.trans b s.activeStart
  match s.trans[i]? with
  | some (c, next) =>
    if c == b then (states, next)
    else
      let next := states.size
      (states.push {} |>.set! from_ { s with trans := s.trans.insertIdx! i (b, next) }, next)
  | none =>
    let next := states.size
    (states.push {} |>.set! from_ { s with trans := s.trans.push (b, next) }, next)

/-- Marks the end of a literal at a trie state: the open chunk closes, unless
it is empty and a chunk closed before. -/
def TrieState.addMatch (s : TrieState) : TrieState :=
  let start := s.activeStart
  if start < s.trans.size || s.chunks.isEmpty then { s with chunks := s.chunks.push (start, s.trans.size) }
  else s

/-- The trie of some literals, read forwards or backwards. -/
def buildTrie (backward : Bool) (texts : List (List Nat)) : Array TrieState :=
  texts.foldl (fun states text =>
    let bytes := if backward then text.reverse else text
    let (states, last) := bytes.foldl (fun (acc : Array TrieState × Nat) b =>
      trieStep acc.1 acc.2 b) (states, 0)
    states.set! last (states[last]!.addMatch)) #[{}]

/-- The chunks of a trie state, the open one last. -/
def TrieState.chunkList (s : TrieState) : List (List (Nat × Nat)) :=
  (s.chunks.toList.map fun (a, b) => (s.trans.toList.drop a).take (b - a)) ++
    [s.trans.toList.drop s.activeStart]

/-- Compiles the trie below a state, children first; gives the alternation
state made for it. Each chunk becomes a range or sparse state; between chunks
the alternation also goes to the end. -/
def compileTrie (trie : Array TrieState) (final : Nat) : Nat → Nat → Count Nat
  | 0, _ => addState 0
  | fuel + 1, s => do
    let mut alts : Nat := 0
    let mut first := true
    for chunk in (trie[s]?.getD default).chunkList do
      if !first then alts := alts + 1
      first := false
      let mut count := 0
      for (_, next) in chunk do
        if !(trie[next]?.getD default).trans.isEmpty then
          let _ ← compileTrie trie final fuel next
        count := count + 1
      if count > 0 then
        let _ ← addState (if count == 1 then 0 else 8 * count)
        alts := alts + 1
    addState (4 * alts)

/-- An alternation of literals: a trie of their bytes, ending in one empty
state. -/
def literalsFrag (texts : List (List Nat)) : Count Frag := do
  let final ← addState 0
  let trie := buildTrie (← get).backward texts
  let start ← compileTrie trie final trie.size 0
  return ⟨start, final, false⟩

/-! ### Pieces -/

/-- Counts pieces in sequence, each linked to the next. -/
def concatFrags (parts : List (Count Frag)) : Count Frag := do
  match parts with
  | [] => emptyFrag
  | first :: rest =>
    let f ← first
    let mut stop := f
    for p in rest do
      let g ← p
      link stop
      stop := g
    return ⟨f.start, stop.stop, stop.stopIsAlt⟩

/-- Counts alternatives: the branches, then an alternation state and an end,
with each branch linked in. -/
def altFrags (parts : List (Count Frag)) : Count Frag := do
  match parts with
  | [] => emptyFrag
  | [p] => p
  | p :: q :: rest =>
    let f ← p
    let g ← q
    let alt ← addState 0
    let stop ← addState 0
    grow 4
    link f
    grow 4
    link g
    for r in rest do
      let h ← r
      grow 4
      link h
    return ⟨alt, stop, false⟩

/-- `n` copies of a piece in sequence. -/
def exactlyFrags (n : Nat) (sub : Count Frag) : Count Frag := do
  if n == 0 then emptyFrag
  else
    let f ← sub
    let mut stop := f
    for _ in [1:n] do
      let g ← sub
      link stop
      stop := g
    return ⟨f.start, stop.stop, stop.stopIsAlt⟩

/-- Counts a repetition of a piece that matches at least `subMin` bytes:
`x?` as an alternation around `x`; `x*` as a loop, or as `(x+)?` when `x` can
match the empty string; `x{n,}` as `n - 1` copies and a loop; `x{n}` as `n`
copies; and `x{n,m}` as `n` copies followed by `m - n` optional copies that all
skip to one end. -/
def repetitionFrag (min : Nat) (max : Option Nat) (subMin : Option Nat)
    (sub : Count Frag) : Count Frag := do
  match min, max with
  | 0, some 1 =>
    let alt ← addState 0
    let f ← sub
    let stop ← addState 0
    grow 8
    link f
    return ⟨alt, stop, false⟩
  | 0, none =>
    if subMin.any (· > 0) then
      let alt ← addState 0
      let f ← sub
      grow 4
      link f
      return ⟨alt, alt, true⟩
    else
      let f ← sub
      let _ ← addState 0
      link f
      grow 4
      let question ← addState 0
      let stop ← addState 0
      grow 12
      return ⟨question, stop, false⟩
  | 1, none =>
    let f ← sub
    let alt ← addState 0
    link f
    grow 4
    return ⟨f.start, alt, true⟩
  | n, none =>
    let pre ← exactlyFrags (n - 1) sub
    let last ← sub
    let alt ← addState 0
    link pre
    link last
    grow 4
    return ⟨pre.start, alt, true⟩
  | n, some m =>
    if n == m then exactlyFrags n sub
    else
      let pre ← exactlyFrags n sub
      let stop ← addState 0
      let mut prev := pre
      for _ in [n:m] do
        let _ ← addState 0
        let f ← sub
        link prev
        grow 8
        prev := f
      link prev
      return ⟨pre.start, stop, false⟩

mutual
/-- Counts a piece and what it is built from. -/
def Piece.count : Piece → Count Frag
  | .empty => emptyFrag
  | .literal bytes => literalFrag bytes
  | .byteClass n => byteClassFrag n
  | .charClass seqs => do
    if (← get).backward then charClassBackward seqs else charClassForward seqs
  | .look => emptyFrag
  | .repetition min max _ subMin sub => repetitionFrag min max subMin (Piece.count sub)
  | .capture sub => do
    if (← get).backward then Piece.count sub
    else
      let start ← addState 0
      let inner ← Piece.count sub
      let stop ← addState 0
      link inner
      return ⟨start, stop, false⟩
  | .concat items => do
    let parts := Piece.countAll items
    concatFrags (if (← get).backward then parts.reverse else parts)
  | .alternation branches => altFrags (Piece.countAll branches)
  | .literals texts => literalsFrag texts

/-- The counts of a list of pieces, each still to be run. -/
def Piece.countAll : List Piece → List (Count Frag)
  | [] => []
  | p :: rest => Piece.count p :: Piece.countAll rest
end

/-- Counts one build of the automaton: the loop over any byte unless the
pattern is anchored, then the pattern (within a capture when building
forwards) and a final state. -/
def countBuild (p : Piece) (anchored : Bool) : Count Unit := do
  let loop ← if anchored then emptyFrag
    else do
      let alt ← addState 0
      let _ ← byteClassFrag 1
      grow 4
      pure (⟨alt, alt, true⟩ : Frag)
  let body ← (Piece.capture p).count
  let _ ← addState 0
  link body
  link loop

/-- Whether an automaton build passes the size limit. -/
def buildTooBig (p : Piece) (backward anchored : Bool) : Bool :=
  match (countBuild p anchored).run { backward } with
  | .ok _ => false
  | .error _ => true

/-- Whether a pattern compiles to an automaton too big in either direction. -/
def Hir.tooBig (h : Hir) : Bool :=
  let p := h.toPiece
  buildTooBig p false (h.prefixHas .textStart) || buildTooBig p true (h.suffixHas .textEnd)

end ShapeKit.Regex
