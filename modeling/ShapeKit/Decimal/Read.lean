/-!
# Reading numbers from text

The number forms that comparisons in selectors accept:

* unsigned integers: an optional `+` and one or more ASCII digits, below 2^64;
* doubles: an optional sign, then `inf`, `infinity` or `nan` in any case, or
  digits with an optional point and fraction (at least one digit in all) and
  an optional exponent `e`/`E` with an optional sign and digits.
-/

namespace ShapeKit.Decimal

/-- The value of ASCII digits. -/
def digitsValue (ds : List Char) : Nat := ds.foldl (fun n c => 10 * n + (c.toNat - 48)) 0

/-- Whether every character is an ASCII digit. -/
def allDigits (ds : List Char) : Bool := ds.all Char.isDigit

/-- An unsigned 64-bit integer written in decimal. -/
def readIndex? (s : String) : Option Nat :=
  let cs := match s.toList with
    | '+' :: rest => rest
    | cs => cs
  if cs.isEmpty || !allDigits cs then none
  else
    let n := digitsValue cs
    if n < Nat.pow 2 64 then some n else none

/-- ASCII lower case of a character list. -/
def lowerChars (cs : List Char) : List Char := cs.map Char.toLower

/-- The double nearest to `m · 10^e`, with overflow to infinity and underflow to zero. -/
def scaled (m : Nat) (e : Int) : Float :=
  if m == 0 then 0
  else if e > 400 then Float.ofScientific 1 false 400 * 10
  else if e < -(400 + (toString m).length) then 0
  else if e ≥ 0 then Float.ofScientific m false e.toNat
  else Float.ofScientific m true (-e).toNat

/-- Reads an unsigned decimal number: digits, point, fraction, exponent. -/
def readUnsigned? (cs : List Char) : Option Float :=
  let intPart := cs.takeWhile Char.isDigit
  let rest := cs.drop intPart.length
  let (frac, rest) := match rest with
    | '.' :: more => (more.takeWhile Char.isDigit, more.drop (more.takeWhile Char.isDigit).length)
    | _ => ([], rest)
  if intPart.isEmpty && frac.isEmpty then none
  else
    let expo : Option Int := match rest with
      | [] => some 0
      | e :: more =>
        if e == 'e' || e == 'E' then
          let (neg, ds) := match more with
            | '-' :: ds => (true, ds)
            | '+' :: ds => (false, ds)
            | ds => (false, ds)
          if ds.isEmpty || !allDigits ds then none
          else
            let v : Int := digitsValue ds
            some (if neg then -v else v)
        else none
    expo.map fun x => scaled (digitsValue (intPart ++ frac)) (x - frac.length)

/-- Reads a double written in decimal. -/
def readFloat? (s : String) : Option Float :=
  let (neg, cs) := match s.toList with
    | '-' :: rest => (true, rest)
    | '+' :: rest => (false, rest)
    | cs => (false, cs)
  let low := lowerChars cs
  let value : Option Float :=
    if low == "inf".toList || low == "infinity".toList then some (1 / 0)
    else if low == "nan".toList then some (0 / 0)
    else readUnsigned? cs
  value.map fun v => if neg then -v else v

end ShapeKit.Decimal
