/-!
# Sets of code points

A set of code points (or of bytes) is a list of inclusive ranges. The set
operations here are the ones a pattern's classes are built with, and they keep
the exact shape of the range list, not only the set it denotes: the size of the
automaton a class compiles to depends on how its ranges are cut.

A list is *canonical* when its ranges are sorted and no two of them overlap or
touch. Union sorts and merges; negation, intersection and difference walk the
ranges in order. Ranges of characters skip the surrogate gap `D800..DFFF`:
the character after `D7FF` is `E000`. Two ranges that meet only across that gap
are not merged, and the negation of such a pair yields the range `D7FF..E000`
(from its two bounds swapped), which holds the characters `D7FF` and `E000`.

The tables of `Unicode.Table` store ranges and runs as hexadecimal numbers in
text; `hexNumbers`, `rangesOfGaps` and `runsOf` read them back.
-/

namespace ShapeKit.Unicode

/-! ## §1. Ranges -/

/-- An inclusive range of code points or bytes. -/
structure CodeRange where
  lo : Nat
  hi : Nat
deriving DecidableEq, Repr, Inhabited

/-- The range between two bounds, given in either order. -/
def CodeRange.create (a b : Nat) : CodeRange := if a ≤ b then ⟨a, b⟩ else ⟨b, a⟩

/-- The order of ranges: by lower bound, then by upper bound. -/
def CodeRange.le (r s : CodeRange) : Bool := r.lo < s.lo || (r.lo == s.lo && r.hi ≤ s.hi)

/-- Whether two ranges overlap or touch, counting plain numbers. -/
def CodeRange.touches (r s : CodeRange) : Bool := max r.lo s.lo ≤ min r.hi s.hi + 1

/-- The range covering two ranges that touch. -/
def CodeRange.join? (r s : CodeRange) : Option CodeRange :=
  if r.touches s then some (CodeRange.create (min r.lo s.lo) (max r.hi s.hi)) else none

/-- The common part of two ranges. -/
def CodeRange.meet? (r s : CodeRange) : Option CodeRange :=
  let lo := max r.lo s.lo
  let hi := min r.hi s.hi
  if lo ≤ hi then some (CodeRange.create lo hi) else none

/-- Whether a value lies in a range. -/
def CodeRange.mem (r : CodeRange) (c : Nat) : Bool := r.lo ≤ c && c ≤ r.hi

/-- The kind of value a set holds: its largest value and its successor and
predecessor functions. -/
structure Bound where
  top : Nat
  next : Nat → Nat
  prev : Nat → Nat

/-- Characters: up to `10FFFF`, stepping over the surrogates. -/
def Bound.char : Bound where
  top := 0x10FFFF
  next n := if n == 0xD7FF then 0xE000 else n + 1
  prev n := if n == 0xE000 then 0xD7FF else n - 1

/-- Bytes: up to `FF`. -/
def Bound.byte : Bound where
  top := 0xFF
  next n := n + 1
  prev n := n - 1

/-- What is left of `r` after taking away `s`: none, one or two ranges, the
lower one first. -/
def CodeRange.minus (b : Bound) (r s : CodeRange) : List CodeRange :=
  if s.lo ≤ r.lo && r.hi ≤ s.hi then []
  else if (r.meet? s).isNone then [r]
  else
    (if s.lo > r.lo then [CodeRange.create r.lo (b.prev s.lo)] else []) ++
    (if s.hi < r.hi then [CodeRange.create (b.next s.hi) r.hi] else [])

/-! ## §2. Sets -/

/-- Whether a range list is sorted with no two ranges overlapping or touching. -/
def isCanonical : List CodeRange → Bool
  | r :: s :: rest => !s.le r && !r.touches s && isCanonical (s :: rest)
  | _ => true

/-- Merges each range of a sorted list into the last one kept when they touch;
`acc` holds the ranges kept, last first. -/
def mergeSorted (acc : List CodeRange) : List CodeRange → List CodeRange
  | [] => acc.reverse
  | r :: rest =>
    match acc with
    | last :: kept =>
      match last.join? r with
      | some u => mergeSorted (u :: kept) rest
      | none => mergeSorted (r :: acc) rest
    | [] => mergeSorted [r] rest

/-- The canonical form of a range list: sorted, with touching ranges merged.
A canonical list is kept as it is. -/
def canonicalize (rs : List CodeRange) : List CodeRange :=
  if isCanonical rs then rs else mergeSorted [] (rs.mergeSort CodeRange.le)

/-- The union of two sets. -/
def union (rs ss : List CodeRange) : List CodeRange :=
  if ss.isEmpty || rs == ss then rs else canonicalize (rs ++ ss)

/-- The ranges between the ranges of a list, each made from the bounds next to
its neighbours. -/
def gapsBetween (b : Bound) : List CodeRange → List CodeRange
  | r :: s :: rest => CodeRange.create (b.next r.hi) (b.prev s.lo) :: gapsBetween b (s :: rest)
  | _ => []

/-- The complement of a set: the gaps before, between and after its ranges. -/
def negate (b : Bound) (rs : List CodeRange) : List CodeRange :=
  match rs, rs.getLast? with
  | first :: _, some last =>
    (if first.lo > 0 then [CodeRange.create 0 (b.prev first.lo)] else []) ++
    gapsBetween b rs ++
    (if last.hi < b.top then [CodeRange.create (b.next last.hi) b.top] else [])
  | _, _ => [⟨0, b.top⟩]

/-- The intersection of two sorted lists, advancing past whichever range ends
first. -/
def intersectSorted : List CodeRange → List CodeRange → List CodeRange
  | [], _ => []
  | _, [] => []
  | r :: rs, s :: ss =>
    let here := (r.meet? s).toList
    if r.hi < s.hi then here ++ intersectSorted rs (s :: ss)
    else here ++ intersectSorted (r :: rs) ss
termination_by rs ss => rs.length + ss.length

/-- The intersection of two sets. -/
def intersect (rs ss : List CodeRange) : List CodeRange :=
  if rs.isEmpty then rs else if ss.isEmpty then [] else intersectSorted rs ss

/-- The difference of two sorted lists. `cur` is the part still kept of a range
of the first list that overlaps ranges of the second; `rs` holds the ranges of
the first list after it. A range of the second list that reaches past the kept
part is left in place for the next range of the first list. -/
def differenceSorted (b : Bound) (cur : Option CodeRange) :
    List CodeRange → List CodeRange → List CodeRange
  | rs, ss =>
    match cur, rs, ss with
    | none, [], _ => []
    | none, rs, [] => rs
    | none, r :: rs', s :: ss' =>
      if s.hi < r.lo then differenceSorted b none (r :: rs') ss'
      else if r.hi < s.lo then r :: differenceSorted b none rs' (s :: ss')
      else differenceSorted b (some r) rs' (s :: ss')
    | some r, rs, [] => r :: differenceSorted b none rs []
    | some r, rs, s :: ss' =>
      if (r.meet? s).isNone then r :: differenceSorted b none rs (s :: ss')
      else
        match r.minus b s with
        | [] => differenceSorted b none rs (s :: ss')
        | [r1] =>
          if s.hi > r.hi then r1 :: differenceSorted b none rs (s :: ss')
          else differenceSorted b (some r1) rs ss'
        | r1 :: r2 :: _ =>
          if s.hi > r.hi then r1 :: r2 :: differenceSorted b none rs (s :: ss')
          else r1 :: differenceSorted b (some r2) rs ss'
termination_by rs ss => (rs.length + ss.length, if cur.isSome then 1 else 0)

/-- The difference of two sets. -/
def difference (b : Bound) (rs ss : List CodeRange) : List CodeRange :=
  if rs.isEmpty || ss.isEmpty then rs else differenceSorted b none rs ss

/-- The symmetric difference of two sets: their union less their intersection. -/
def symmetricDifference (b : Bound) (rs ss : List CodeRange) : List CodeRange :=
  difference b (union rs ss) (intersect rs ss)

/-- Whether a value lies in a set. -/
def mem (rs : List CodeRange) (c : Nat) : Bool := rs.any (·.mem c)

/-- Whether every value of a set is ASCII. -/
def isAscii (rs : List CodeRange) : Bool :=
  match rs.getLast? with
  | some r => r.hi ≤ 0x7F
  | none => true

/-! ## §3. Reading the tables -/

/-- The value of a hexadecimal digit. -/
def hexValue? (c : Char) : Option Nat :=
  if '0' ≤ c && c ≤ '9' then some (c.toNat - 48)
  else if 'a' ≤ c && c ≤ 'f' then some (c.toNat - 87)
  else if 'A' ≤ c && c ≤ 'F' then some (c.toNat - 55)
  else none

/-- The hexadecimal numbers of a text, in order; any other character ends a
number. -/
def hexNumbersOf (cs : List Char) : List Nat :=
  let step (acc : List Nat × Option Nat) (c : Char) : List Nat × Option Nat :=
    match hexValue? c, acc with
    | some d, (ns, some n) => (ns, some (16 * n + d))
    | some d, (ns, none) => (ns, some d)
    | none, (ns, some n) => (n :: ns, none)
    | none, (ns, none) => (ns, none)
  match cs.foldl step ([], none) with
  | (ns, some n) => (n :: ns).reverse
  | (ns, none) => ns.reverse

/-- The hexadecimal numbers of a table stored in pieces. -/
def hexNumbers (pieces : List String) : List Nat :=
  pieces.flatMap fun p => hexNumbersOf p.toList

/-- The records of a table stored in pieces, each ended by `;`, as lists of
numbers. -/
def hexRecords (pieces : List String) : List (List Nat) :=
  ((String.join pieces).splitOn ";").filterMap fun r =>
    match hexNumbersOf r.toList with
    | [] => none
    | ns => some ns

/-- Ranges stored as pairs: the gap from the end of the previous range and the
length less one. `next` is where the gap is counted from. -/
def rangesFrom (next : Nat) : List Nat → List CodeRange
  | gap :: span :: rest =>
    let lo := next + gap
    ⟨lo, lo + span⟩ :: rangesFrom (lo + span + 1) rest
  | _ => []

/-- Ranges stored as gap and span pairs, from `0`. -/
def rangesOfGaps (pieces : List String) : List CodeRange := rangesFrom 0 (hexNumbers pieces)

/-- Runs stored as pairs of a length and a value, from `start`: each run as a
range with its value. -/
def runsFrom (start : Nat) : List Nat → List (CodeRange × Nat)
  | len :: v :: rest => (⟨start, start + len - 1⟩, v) :: runsFrom (start + len) rest
  | _ => []

/-- Runs stored as length and value pairs, from `0`. -/
def runsOf (pieces : List String) : List (CodeRange × Nat) := runsFrom 0 (hexNumbers pieces)

/-- The ranges of the runs whose value passes a test, merged. -/
def rangesWhere (runs : Array (CodeRange × Nat)) (keep : Nat → Bool) : List CodeRange :=
  mergeSorted [] ((runs.toList.filter fun (_, v) => keep v).map (·.1))

/-- The value of the run holding `c`, found by halving; the runs are sorted and
cover every value from `0`. `lo` and `hi` bound the runs still in question. -/
def runValueIn (runs : Array (CodeRange × Nat)) (c : Nat) : Nat → Nat → Nat → Nat
  | 0, _, _ => 0
  | fuel + 1, lo, hi =>
    if hi ≤ lo then 0
    else
      let mid := (lo + hi) / 2
      match runs[mid]? with
      | some (r, v) =>
        if c < r.lo then runValueIn runs c fuel lo mid
        else if r.hi < c then runValueIn runs c fuel (mid + 1) hi
        else v
      | none => 0

/-- The value of the run holding `c`. -/
def runValue (runs : Array (CodeRange × Nat)) (c : Nat) : Nat :=
  runValueIn runs c 64 0 runs.size

end ShapeKit.Unicode
