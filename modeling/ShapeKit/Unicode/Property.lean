import ShapeKit.Unicode.CodeSet
import ShapeKit.Unicode.Table.Category
import ShapeKit.Unicode.Table.Script
import ShapeKit.Unicode.Table.Binary
import ShapeKit.Unicode.Table.Age
import ShapeKit.Unicode.Table.Segment
import ShapeKit.Unicode.Table.CaseFold

/-!
# Unicode properties

The code point sets of the Unicode properties a pattern can name, read from the
tables of `Unicode.Table`: general categories, scripts and script extensions,
the binary properties, ages, and the grapheme, sentence and word break values;
the Perl classes `\d`, `\s`, `\w`; and simple case folding.

Sets of characters never hold a surrogate code point: the tables list
`D800..DFFF` under the surrogate category, the `Unknown` script and the
`Control` break values, and those stretches are dropped here, so the category
`Surrogate` is empty. Every set is canonical (see `Unicode.CodeSet`).
-/

namespace ShapeKit.Unicode

/-! ## §1. General categories -/

/-- The general categories of Unicode. -/
inductive Category where
  | lu | ll | lt | lm | lo | mn | mc | me | nd | nl | no | pc | pd | ps | pe | pi | pf | po
  | sm | sc | sk | so | zs | zl | zp | cc | cf | cs | co | cn
deriving DecidableEq, Repr, Inhabited

/-- The categories in the order the category table numbers them. -/
def Category.all : List Category :=
  [.lu, .ll, .lt, .lm, .lo, .mn, .mc, .me, .nd, .nl, .no, .pc, .pd, .ps, .pe, .pi, .pf, .po,
   .sm, .sc, .sk, .so, .zs, .zl, .zp, .cc, .cf, .cs, .co, .cn]

/-- The two-letter code of a category. -/
def Category.code : Category → String
  | .lu => "Lu" | .ll => "Ll" | .lt => "Lt" | .lm => "Lm" | .lo => "Lo"
  | .mn => "Mn" | .mc => "Mc" | .me => "Me"
  | .nd => "Nd" | .nl => "Nl" | .no => "No"
  | .pc => "Pc" | .pd => "Pd" | .ps => "Ps" | .pe => "Pe" | .pi => "Pi" | .pf => "Pf" | .po => "Po"
  | .sm => "Sm" | .sc => "Sc" | .sk => "Sk" | .so => "So"
  | .zs => "Zs" | .zl => "Zl" | .zp => "Zp"
  | .cc => "Cc" | .cf => "Cf" | .cs => "Cs" | .co => "Co" | .cn => "Cn"

/-- The category with a number of the category table. -/
def Category.ofIndex (n : Nat) : Category := (Category.all[n]?).getD .cn

/-- The category table as runs. -/
def categoryRuns : Array (CodeRange × Nat) := (runsOf Table.categoryRuns).toArray

/-- The general category of a code point. -/
def categoryOf (c : Nat) : Category := Category.ofIndex (runValue categoryRuns c)

/-- The code points whose category passes a test; surrogates are never kept. -/
def categorySet (keep : Category → Bool) : List CodeRange :=
  rangesWhere categoryRuns fun i =>
    let cat := Category.ofIndex i
    cat != .cs && keep cat

/-! ## §2. Dropping surrogates -/

/-- A range without the surrogates: none, one or two ranges. -/
def CodeRange.withoutSurrogates (r : CodeRange) : List CodeRange :=
  if r.hi < 0xD800 || 0xDFFF < r.lo then [r]
  else
    (if r.lo < 0xD800 then [⟨r.lo, 0xD7FF⟩] else []) ++
    (if 0xDFFF < r.hi then [⟨0xE000, r.hi⟩] else [])

/-- A set without the surrogates. -/
def withoutSurrogates (rs : List CodeRange) : List CodeRange :=
  rs.flatMap CodeRange.withoutSurrogates

/-! ## §3. Scripts -/

/-- The script table as runs; the value is a script's number, `0` for none. -/
def scriptRuns : Array (CodeRange × Nat) := (runsOf Table.scriptRuns).toArray

/-- The stretches whose script extensions differ from their script, each with
the numbers of the scripts in its extensions. -/
def scriptExtensionOverrides : List (CodeRange × List Nat) :=
  let rec go (next : Nat) : List (List Nat) → List (CodeRange × List Nat)
    | (gap :: span :: scripts) :: rest =>
      let lo := next + gap
      (⟨lo, lo + span⟩, scripts) :: go (lo + span + 1) rest
    | _ :: rest => go next rest
    | [] => []
  go 0 (hexRecords Table.scriptExtensionRecords)

/-- The code points of the script with a number. -/
def scriptSet (n : Nat) : List CodeRange :=
  if n == 0 then [] else rangesWhere scriptRuns (· == n)

/-- The code points whose script extensions hold the script with a number:
those of the script outside the stretches with other extensions, and those of
the stretches whose extensions name it. -/
def scriptExtensionSet (n : Nat) : List CodeRange :=
  if n == 0 then []
  else
    let others := canonicalize (scriptExtensionOverrides.map (·.1))
    let named := canonicalize ((scriptExtensionOverrides.filter fun (_, ss) => ss.contains n).map (·.1))
    union (difference Bound.char (scriptSet n) others) named

/-! ## §4. Binary properties, ages and break values -/

/-- The code points of a binary property, by its long name. -/
def binarySet? (name : String) : Option (List CodeRange) :=
  (Table.binaryProperties.lookup name).map fun t => withoutSurrogates (rangesOfGaps t)

/-- The code points assigned by a version, by the long name of its age value,
counting every earlier version too. -/
def ageSet? (name : String) : Option (List CodeRange) :=
  match Table.ageAdditions.findIdx? (·.1 == name) with
  | some i =>
    some ((Table.ageAdditions.take (i + 1)).foldl
      (fun acc (_, t) => union acc (withoutSurrogates (rangesOfGaps t))) [])
  | none => none

/-- The code points with a value of a break property: its runs, its value
names and the long name asked for. -/
def breakSet? (runs : List String) (values : List String) (name : String) :
    Option (List CodeRange) :=
  match values.idxOf? name with
  | some i => some (withoutSurrogates (rangesWhere (runsOf runs).toArray (· == i + 1)))
  | none => none

/-- The code points with a grapheme cluster break value. -/
def graphemeBreakSet? (name : String) : Option (List CodeRange) :=
  breakSet? Table.graphemeBreakRuns Table.graphemeBreakValues name

/-- The code points with a sentence break value. -/
def sentenceBreakSet? (name : String) : Option (List CodeRange) :=
  breakSet? Table.sentenceBreakRuns Table.sentenceBreakValues name

/-- The code points with a word break value. -/
def wordBreakSet? (name : String) : Option (List CodeRange) :=
  breakSet? Table.wordBreakRuns Table.wordBreakValues name

/-! ## §5. The Perl classes -/

/-- `\d`: the decimal numbers. -/
def perlDigit : List CodeRange := categorySet (· == .nd)

/-- `\s`: the `White_Space` property. -/
def perlSpace : List CodeRange := (binarySet? "White_Space").getD []

/-- `\w`: alphabetic characters, marks, decimal numbers, connector punctuation
and the join controls. -/
def perlWord : List CodeRange :=
  let marks := categorySet fun c => c == .mn || c == .mc || c == .me || c == .nd || c == .pc
  union (union ((binarySet? "Alphabetic").getD []) marks) ((binarySet? "Join_Control").getD [])

/-- Whether a value lies in a canonical set held as an array, by halving. -/
def memSortedIn (rs : Array CodeRange) (c : Nat) : Nat → Nat → Nat → Bool
  | 0, _, _ => false
  | fuel + 1, lo, hi =>
    if hi ≤ lo then false
    else
      let mid := (lo + hi) / 2
      match rs[mid]? with
      | some r =>
        if c < r.lo then memSortedIn rs c fuel lo mid
        else if r.hi < c then memSortedIn rs c fuel (mid + 1) hi
        else true
      | none => false

/-- Whether a value lies in a canonical set held as an array. -/
def memSorted (rs : Array CodeRange) (c : Nat) : Bool := memSortedIn rs c 64 0 rs.size

/-- The `\w` set as an array, for testing characters. -/
def perlWordArray : Array CodeRange := perlWord.toArray

/-- Whether a character is a word character in the sense of `\w`. -/
def isWordChar (c : Char) : Bool := memSorted perlWordArray c.toNat

/-- The `Grapheme_Extend` set as an array. -/
def graphemeExtendArray : Array CodeRange := ((binarySet? "Grapheme_Extend").getD []).toArray

/-- Whether a character extends a grapheme cluster. -/
def isGraphemeExtend (c : Char) : Bool := memSorted graphemeExtendArray c.toNat

/-- The `Alphabetic` set as an array. -/
def alphabeticArray : Array CodeRange := ((binarySet? "Alphabetic").getD []).toArray

/-- Whether a character has the `Alphabetic` property. -/
def isAlphabetic (c : Char) : Bool := memSorted alphabeticArray c.toNat

/-- Whether a character is a number: a decimal digit, a letter number or another
number. -/
def isNumeric (c : Char) : Bool :=
  match categoryOf c.toNat with
  | .nd | .nl | .no => true
  | _ => false

/-! ## §6. Simple case folding -/

/-- The classes of code points that simple case folding makes equal. -/
def caseOrbits : Array (List Nat) := (hexRecords Table.caseOrbits).toArray

/-- Every code point of some class of `caseOrbits`, with the number of its
class, sorted by code point. -/
def caseKeys : Array (Nat × Nat) :=
  let pairs := caseOrbits.toList.zipIdx.flatMap fun (o, i) => o.map fun c => (c, i)
  (pairs.mergeSort fun a b => a.1 ≤ b.1).toArray

/-- The position of the first key not below `c`, by halving. -/
def firstKeyFrom (c : Nat) : Nat → Nat → Nat → Nat
  | 0, lo, _ => lo
  | fuel + 1, lo, hi =>
    if hi ≤ lo then lo
    else
      let mid := (lo + hi) / 2
      match caseKeys[mid]? with
      | some (k, _) => if k < c then firstKeyFrom c fuel (mid + 1) hi else firstKeyFrom c fuel lo mid
      | none => lo

/-- The keys from a position on that are at most `hi`. -/
def keysUpTo (hi : Nat) : Nat → Nat → List (Nat × Nat)
  | 0, _ => []
  | fuel + 1, i =>
    match caseKeys[i]? with
    | some (k, o) => if k ≤ hi then (k, o) :: keysUpTo hi fuel (i + 1) else []
    | none => []

/-- The code points of a range that case folding relates to others, with the
number of their class. -/
def caseKeysIn (r : CodeRange) : List (Nat × Nat) :=
  keysUpTo r.hi caseKeys.size (firstKeyFrom r.lo 64 0 caseKeys.size)

/-- Whether simple case folding relates some code point of a range to another. -/
def hasCaseFold (r : CodeRange) : Bool := !(caseKeysIn r).isEmpty

/-- A set closed under simple case folding: each code point brings the others
of its class. -/
def caseFold (rs : List CodeRange) : List CodeRange :=
  let extra := rs.flatMap fun r =>
    (caseKeysIn r).flatMap fun (k, o) =>
      ((caseOrbits[o]?).getD []).filterMap fun m => if m == k then none else some ⟨m, m⟩
  canonicalize (rs ++ extra)

end ShapeKit.Unicode
