/-!
# JSON values

A node value of a model: `null`, a boolean, a number, a string, an array, or an
object whose entries keep the order in which they were written.

Numbers are classified when read: an integer that fits 64 unsigned bits is
`Number.nat`, a negative integer that fits 64 signed bits is `Number.neg`, and
any other number is a double. Two numbers are equal only within one class, and
two doubles by IEEE comparison, so `1` differs from `1.0` while `0.0` equals
`-0.0`. Two objects are equal when they hold the same keys with equal values,
in any order.
-/

namespace ShapeKit.Json

/-- A JSON number, classified as the reader classifies it: `nat` holds a
non-negative integer below `2^64`, `neg` a negative integer not below
`-2^63`, and `float` any other number, as a double. -/
inductive Number where
  | nat (n : Nat)
  | neg (n : Int)
  | float (f : Float)

namespace Number

/-- Equality within one class; doubles compare as IEEE values. -/
def equal : Number → Number → Bool
  | .nat a, .nat b => a == b
  | .neg a, .neg b => a == b
  | .float a, .float b => a == b
  | _, _ => false

/-- The number as a double; integers round to the nearest double. -/
def toFloat : Number → Float
  | .nat n => Float.ofNat n
  | .neg n => Float.ofInt n
  | .float f => f

/-- The number as a 64-bit signed integer, when it is an integer in range. -/
def toInt64? : Number → Option Int
  | .nat n => if n < Nat.pow 2 63 then some n else none
  | .neg n => some n
  | .float _ => none

/-- The number as a 64-bit unsigned integer, when it is a non-negative integer. -/
def toNat? : Number → Option Nat
  | .nat n => some n
  | _ => none

/-- Whether the number is an integer of either class. -/
def isInteger : Number → Bool
  | .float _ => false
  | _ => true

end Number

/-- A JSON value: `null`, a boolean, a number, a string, an array, or an
object as its entries in the order they were written. -/
inductive Node where
  | null
  | bool (b : Bool)
  | num (n : Number)
  | str (s : String)
  | arr (items : List Node)
  | obj (entries : List (String × Node))

instance : Inhabited Node := ⟨.null⟩

namespace Node

/-- The value of a key in an entry list, first occurrence. -/
def lookup (key : String) : List (String × Node) → Option Node
  | [] => none
  | (k, v) :: rest => if k == key then some v else lookup key rest

mutual
/-- Structural equality of values: objects compare as key sets with equal values. -/
def equal : Node → Node → Bool
  | .null, .null => true
  | .bool a, .bool b => a == b
  | .num a, .num b => a.equal b
  | .str a, .str b => a == b
  | .arr xs, .arr ys => equalItems xs ys
  | .obj xs, .obj ys => xs.length == ys.length && equalEntries xs ys
  | _, _ => false

/-- Pointwise equality of two arrays. -/
def equalItems : List Node → List Node → Bool
  | [], [] => true
  | x :: xs, y :: ys => equal x y && equalItems xs ys
  | _, _ => false

/-- Every entry of the first list has an equal value under its key in the second. -/
def equalEntries : List (String × Node) → List (String × Node) → Bool
  | [], _ => true
  | (k, v) :: rest, ys =>
    (match lookup k ys with
     | some w => equal v w
     | none => false) && equalEntries rest ys
end

instance : BEq Node := ⟨equal⟩

/-- Puts a key: an existing key keeps its position and takes the new value,
a new key goes to the end. -/
def putEntry (key : String) (value : Node) : List (String × Node) → List (String × Node)
  | [] => [(key, value)]
  | (k, v) :: rest => if k == key then (k, value) :: rest else (k, v) :: putEntry key value rest

/-- The value under a key of an object; `none` for other values. -/
def get? (n : Node) (key : String) : Option Node :=
  match n with
  | .obj entries => lookup key entries
  | _ => none

/-- The string of a string value. -/
def asStr? : Node → Option String
  | .str s => some s
  | _ => none

/-- The items of an array value. -/
def asArr? : Node → Option (List Node)
  | .arr xs => some xs
  | _ => none

/-- The entries of an object value. -/
def asObj? : Node → Option (List (String × Node))
  | .obj es => some es
  | _ => none

/-- The boolean of a boolean value. -/
def asBool? : Node → Option Bool
  | .bool b => some b
  | _ => none

/-- The number of a number value. -/
def asNum? : Node → Option Number
  | .num n => some n
  | _ => none

/-- Whether the value is `null`. -/
def isNull : Node → Bool
  | .null => true
  | _ => false

/-- The value as a double, for numbers. -/
def asFloat? (n : Node) : Option Float := n.asNum?.map Number.toFloat

/-- The value as a non-negative 64-bit integer. -/
def asNat? (n : Node) : Option Nat := n.asNum? >>= Number.toNat?

/-- The value as a signed 64-bit integer. -/
def asInt? (n : Node) : Option Int := n.asNum? >>= Number.toInt64?

end Node

/-- The kind of a value, named as messages name it. -/
inductive NodeType where
  | null | boolean | number | string | array | object
deriving DecidableEq, Repr

namespace NodeType

/-- The kind of a value. -/
def of : Node → NodeType
  | .null => .null
  | .bool _ => .boolean
  | .num _ => .number
  | .str _ => .string
  | .arr _ => .array
  | .obj _ => .object

/-- The lowercase name used in messages. -/
def name : NodeType → String
  | .null => "null"
  | .boolean => "boolean"
  | .number => "number"
  | .string => "string"
  | .array => "array"
  | .object => "object"

end NodeType

end ShapeKit.Json
