/-!
# Shortest decimal digits of a double

A finite double `v = m · 2^q` stands for every real that rounds to it: the
interval between the midpoints to its two neighbours, ends included exactly
when `m` is even. The shortest decimal text of `v` is the decimal with the
fewest significant digits inside that interval, and of two such decimals the
one nearer to `v`.

`shortest` finds it by trying 1, 2, … 17 significant digits: for `k` digits it
tests the two neighbours of `v` on the grid `10^(E-k+1)`, where `10^E ≤ v <
10^(E+1)`. All comparisons are exact in natural numbers.

Two texts are built from the digits: `Decimal.jsonText`, the JSON writer's
form (positional from `1e-5` up to below `1e16`, otherwise one digit, a point
and an exponent such as `1e+16` or `1.5e-7`), and `Decimal.plainText`, the form
used inside messages (always positional, no trailing `.0`).
-/

namespace ShapeKit.Decimal

/-- A finite nonzero double split into sign and `m · 2^q`, with a note whether
the neighbour below is nearer than the one above (the mantissa is a power of
two and the exponent is not the least one). -/
structure Binary where
  negative : Bool
  mantissa : Nat
  exponent : Int
  lowerCloser : Bool

/-- Reads the sign, mantissa and binary exponent of a double from its bits. -/
def Binary.ofFloat (f : Float) : Binary :=
  let bits := f.toBits.toNat
  let negative := bits ≥ Nat.pow 2 63
  let biased : Nat := (bits / Nat.pow 2 52) % Nat.pow 2 11
  let fraction : Nat := bits % Nat.pow 2 52
  if biased = 0 then
    { negative, mantissa := fraction, exponent := -1074, lowerCloser := false }
  else
    { negative, mantissa := fraction + Nat.pow 2 52, exponent := (biased : Int) - 1075,
      lowerCloser := fraction == 0 && biased > 1 }

/-- Number of decimal digits of a natural number (one for zero). -/
def digitCount (n : Nat) : Nat := (Nat.toDigits 10 n).length

/-- `floor (log10 (num / den))` for positive `num` and `den`. -/
def decimalExponent (num den : Nat) : Int :=
  if den ≤ num then (digitCount (num / den) : Int) - 1
  else
    -- the least `j` with `num · 10^j ≥ den`
    let c := (den + num - 1) / num
    0 - (digitCount (c - 1) : Int)

/-- Compares `d · 10^p` with `a · 2^e`, exactly. -/
def compareScaled (d : Nat) (p : Int) (a : Nat) (e : Int) : Ordering :=
  compare (d * Nat.pow 10 p.toNat * Nat.pow 2 (-e).toNat) (a * Nat.pow 2 e.toNat * Nat.pow 10 (-p).toNat)

/-- Drops trailing zero digits, raising the exponent; `fuel` bounds the steps. -/
def stripZeros : Nat → Nat → Int → Nat × Int
  | 0, d, p => (d, p)
  | fuel + 1, d, p =>
    if d ≠ 0 ∧ d % 10 = 0 then stripZeros fuel (d / 10) (p + 1) else (d, p)

/-- The shortest digits `d` and exponent `p` with `d · 10^p` reading back as the
double `m · 2^q` described by `b`, nearest of the shortest; `d` has no
trailing zero. The mantissa must be positive. -/
def shortest (b : Binary) : Nat × Int :=
  let m := b.mantissa
  -- work in quarter units `2^(q-2)`: the value is `4m`, the interval ends are
  -- `4m + 2` above and `4m - 2` (or `4m - 1`) below
  let unit : Int := b.exponent - 2
  let value := 4 * m
  let above := 4 * m + 2
  let below := if b.lowerCloser then 4 * m - 1 else 4 * m - 2
  let inclusive := m % 2 = 0
  let inside (d : Nat) (p : Int) : Bool :=
    let lo := compareScaled d p below unit
    let hi := compareScaled d p above unit
    if inclusive then lo != .lt && hi != .gt else lo == .gt && hi == .lt
  let num := value * Nat.pow 2 unit.toNat
  let den := Nat.pow 2 (-unit).toNat
  let e := decimalExponent num den
  let attempt (k : Nat) : Option (Nat × Int) :=
    let p : Int := e - (k : Int) + 1
    -- the value and a grid point `d · 10^p`, on one common scale
    let scaledValue := num * Nat.pow 10 (-p).toNat
    let scale := den * Nat.pow 10 p.toNat
    let lo := scaledValue / scale
    let hi := lo + 1
    let loIn := inside lo p
    let hiIn := inside hi p
    if loIn && hiIn then
      let dLo := scaledValue - lo * scale
      let dHi := hi * scale - scaledValue
      if dLo < dHi then some (lo, p)
      else if dHi < dLo then some (hi, p)
      else if lo % 2 = 0 then some (lo, p) else some (hi, p)
    else if loIn then some (lo, p)
    else if hiIn then some (hi, p)
    else none
  let found := ((List.range 17).map (· + 1)).findSome? attempt
  let (d, p) := found.getD (m, b.exponent)
  stripZeros 20 d p

/-- The decimal digits of a natural number as text. -/
def digitsText (d : Nat) : String := String.ofList (Nat.toDigits 10 d)

/-- `n` zero characters. -/
def zeros (n : Nat) : String := String.ofList (List.replicate n '0')

/-- The JSON writer's text of a double: `0.0` for zero; for digits `ds` with
the point after `kk` of them, positional when `-5 < kk ≤ 16` (with `.0` when
the value is integral), otherwise `d.ddde+x` or `d.ddde-x` with the exponent
unpadded. Non-finite values have no JSON text and give `null`. -/
def jsonText (f : Float) : String :=
  if f.isNaN || f.isInf then "null"
  else
    let b := Binary.ofFloat f
    let sign := if b.negative then "-" else ""
    if b.mantissa = 0 then sign ++ "0.0"
    else
      let (d, p) := shortest b
      let ds := digitsText d
      let n : Int := ds.length
      let kk : Int := n + p
      let body :=
        if 0 ≤ p ∧ kk ≤ 16 then ds ++ zeros p.toNat ++ ".0"
        else if 0 < kk ∧ kk ≤ 16 then
          String.ofList (ds.toList.take kk.toNat) ++ "." ++ String.ofList (ds.toList.drop kk.toNat)
        else if -5 < kk ∧ kk ≤ 0 then "0." ++ zeros (-kk).toNat ++ ds
        else
          let expText := (if kk - 1 < 0 then "" else "+") ++ toString (kk - 1)
          if n = 1 then ds ++ "e" ++ expText
          else String.ofList (ds.toList.take 1) ++ "." ++ String.ofList (ds.toList.drop 1) ++ "e" ++ expText
      sign ++ body

/-- The text of a double inside messages: always positional, no exponent, and
no fraction when the value is integral (`1`, `2.5`, `0.0000001`,
`1000000000000000000000`); `NaN`, `inf` and `-inf` for the non-finite values. -/
def plainText (f : Float) : String :=
  if f.isNaN then "NaN"
  else
    let b := Binary.ofFloat f
    let sign := if b.negative then "-" else ""
    if f.isInf then sign ++ "inf"
    else if b.mantissa = 0 then sign ++ "0"
    else
      let (d, p) := shortest b
      let ds := digitsText d
      let n : Int := ds.length
      let kk : Int := n + p
      let body :=
        if kk ≤ 0 then "0." ++ zeros (-kk).toNat ++ ds
        else if kk < n then
          String.ofList (ds.toList.take kk.toNat) ++ "." ++ String.ofList (ds.toList.drop kk.toNat)
        else ds ++ zeros (kk - n).toNat
      sign ++ body

end ShapeKit.Decimal
