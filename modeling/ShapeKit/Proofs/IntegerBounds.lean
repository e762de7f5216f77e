import Mathlib.Algebra.Order.Ring.Int
import ShapeKit.Validation.NodeCheck

/-!
# Numbers against integer shapes

A number checked against a `byte`, `short`, `integer`, `long` or `bigInteger`
shape passes the type check when it is an integer the type can hold. A double
is refused as no integer; an integer outside the signed range
`[-2^(w-1), 2^(w-1) - 1]` of a bounded type's width `w` (8, 16, 32 or 64 bits)
is refused as out of range; `bigInteger` takes every integer.

The check reads an integer through its 64-bit signed value, which an integer
of `2^63` or more does not have. Such an integer is out of range for every
bounded type, `long` included: no signed range of at most 64 bits reaches it
(`Number.toInt64?_eq_none`). So the check through the conversion and the
range of the width agree on every number.

Main statement: `visitValue_integer`.
-/

namespace ShapeKit

open Json

/-! ## §1. Widths and signed ranges -/

/-- The signed integers of a width `w` are `[-2^(w-1), 2^(w-1) - 1]`. -/
def InSignedRange (w : Nat) (v : Int) : Prop := -2 ^ (w - 1) ≤ v ∧ v ≤ 2 ^ (w - 1) - 1

instance (w : Nat) (v : Int) : Decidable (InSignedRange w v) :=
  inferInstanceAs (Decidable (_ ∧ _))

namespace ShapeType

/-- The width in bits of a bounded integer type. -/
def intWidth? : ShapeType → Option Nat
  | .byte => some 8
  | .short => some 16
  | .integer => some 32
  | .long => some 64
  | _ => none

/-- The bounds the check uses are the signed range of the type's width. -/
theorem integerBounds_eq (t : ShapeType) :
    integerBounds t = t.intWidth?.map fun w => (-2 ^ (w - 1), 2 ^ (w - 1) - 1) := by
  cases t <;> rfl

theorem intWidth?_le {t : ShapeType} {w : Nat} (h : t.intWidth? = some w) : w ≤ 64 := by
  cases t <;> simp [intWidth?] at h <;> omega

end ShapeType

namespace Json.Number

/-- The integer a number holds; a double holds none. -/
def intValue? : Number → Option Int
  | .nat n => some n
  | .neg n => some n
  | .float _ => none

/-- The 64-bit signed value of a number, when there is one, is its integer. -/
theorem intValue?_of_toInt64? {n : Number} {v : Int} (h : n.toInt64? = some v) :
    n.intValue? = some v := by
  cases n with
  | nat n =>
    simp only [toInt64?] at h
    split at h
    · exact h
    · cases h
  | neg n => exact h
  | float _ => cases h

/-- An integer with no 64-bit signed value lies outside every signed range of
at most 64 bits. -/
theorem toInt64?_eq_none {n : Number} {v : Int} {w : Nat} (h : n.toInt64? = none)
    (hv : n.intValue? = some v) (hw : w ≤ 64) : ¬ InSignedRange w v := by
  cases n with
  | nat n =>
    simp only [toInt64?, Nat.pow_eq, ite_eq_right_iff, reduceCtorEq, imp_false, Nat.not_lt] at h
    cases hv
    -- `2^63 ≤ n`, while the range ends below `2^(w-1) ≤ 2^63`
    have hpow : (2 : Int) ^ (w - 1) ≤ 2 ^ 63 := pow_le_pow_right₀ (by decide) (by omega)
    have hn : (2 : Int) ^ 63 ≤ n := by exact_mod_cast h
    intro hr
    have := hr.2
    omega
  | neg n => cases h
  | float _ => cases hv

end Json.Number

/-! ## §2. What the type check says -/

/-- The problems the type check of an integer shape finds with a number, as
the types are documented: a double is no integer; an integer outside the
signed range of a bounded type's width is out of range; `bigInteger` takes
every integer. -/
def integerProblems (S : Shape) (n : Number) : List String :=
  match n.intValue? with
  | none => [s!"Expected integer value for {S.type.name} shape `{S.id.text}`, found number"]
  | some v =>
    match S.type.intWidth? with
    | some w =>
      if InSignedRange w v then []
      else [s!"{S.type.name} value {n.text} is out of range for shape `{S.id.text}`"]
    | none => []

/-- The integer types: the bounded ones and `bigInteger`. -/
def integerTypes : List ShapeType := [.byte, .short, .integer, .long, .bigInteger]

/-- A shape of an integer type is a simple shape. -/
theorem body_of_integerType {S : Shape} (ht : S.type ∈ integerTypes) : S.body = .simple S.type := by
  rcases S with ⟨id, body, traits, source⟩
  cases body <;> simp_all [Shape.type, Body.type, integerTypes]

section Check

variable (S : Shape) (te : String → String)

/-- A double is no integer for any integer type. -/
theorem simpleViolations_float {t : ShapeType} (ht : t ∈ integerTypes) (f : Float) :
    simpleViolations S t (.num (.float f)) te = [te "integer"] := by
  simp only [integerTypes, List.mem_cons, List.not_mem_nil, or_false] at ht
  rcases ht with rfl | rfl | rfl | rfl | rfl <;> rfl

/-- `bigInteger` takes every integer. -/
theorem simpleViolations_bigInteger {n : Number} {v : Int} (hv : n.intValue? = some v) :
    simpleViolations S .bigInteger (.num n) te = [] := by
  cases n with
  | float _ => cases hv
  | nat _ | neg _ => rfl

/-- A bounded type refuses exactly the integers outside the signed range of its
width: through the 64-bit signed value where there is one, and for want of it
otherwise. -/
theorem simpleViolations_bounded {t : ShapeType} {w : Nat} (hw : t.intWidth? = some w)
    {n : Number} {v : Int} (hv : n.intValue? = some v) :
    simpleViolations S t (.num n) te =
      if InSignedRange w v then [] else [s!"{t.name} value {n.text} is out of range for shape `{S.id.text}`"] := by
  have hw64 := ShapeType.intWidth?_le hw
  have hb : integerBounds t = some (-2 ^ (w - 1), 2 ^ (w - 1) - 1) := by
    rw [ShapeType.integerBounds_eq, hw]
    rfl
  -- the check matches on the type first, so the four bounded types are taken
  -- one by one; what follows is the same for each
  cases t <;> cases hw
  all_goals
    cases n with
    | float _ => cases hv
    | nat k | neg k =>
      simp only [simpleViolations, hb]
      split
      · next _ x hx =>
        -- the 64-bit value is the integer itself
        obtain rfl : x = v := Option.some.inj ((Number.intValue?_of_toInt64? hx).symm.trans hv)
        exact if_congr (by simp [InSignedRange]) rfl rfl
      · next _ hx =>
        rw [if_neg (Number.toInt64?_eq_none hx hv hw64)]
        rfl

/-- The type check of an integer type, through the 64-bit signed value and the
type's bounds, finds exactly the documented problems. -/
theorem simpleViolations_integer (ht : S.type ∈ integerTypes) (n : Number) :
    simpleViolations S S.type (.num n) (fun expected =>
        s!"Expected {expected} value for {S.type.name} shape `{S.id.text}`, found {(NodeType.of (Node.num n)).name}") =
      integerProblems S n := by
  unfold integerProblems
  cases hv : n.intValue? with
  | none =>
    -- only a double holds no integer
    obtain ⟨f, rfl⟩ : ∃ f, n = .float f := by
      cases n with
      | float f => exact ⟨f, rfl⟩
      | nat _ | neg _ => cases hv
    dsimp only
    rw [simpleViolations_float S _ ht f, List.singleton_inj, ← String.toList_inj]
    simp [toString, NodeType.of, NodeType.name, String.toList_append]
  | some v =>
    cases hw : S.type.intWidth? with
    | some w => exact simpleViolations_bounded S _ hw hv
    | none =>
      -- the only integer type without a width is `bigInteger`
      have hbig : S.type = .bigInteger := by
        simp only [integerTypes, List.mem_cons, List.not_mem_nil, or_false] at ht
        rcases ht with h | h | h | h | h <;> simp_all [ShapeType.intWidth?]
      rw [hbig]
      exact simpleViolations_bigInteger S _ hv

end Check

/-! ## §3. The walk at an integer shape -/

/-- One step of the walk at a simple shape: the type check, then the `length`,
`range` and `pattern` constraints. -/
theorem visitValue_simple {m : Model} {k : ShapeId} {S : Shape} {t : ShapeType}
    (hS : m.get? k = some S) (hb : S.body = .simple t) (fuel : Nat) (v : Node) (path : String) :
    visitValue m (fuel + 1) v k path =
      some ((simpleViolations S t v fun expected =>
          s!"Expected {expected} value for {S.type.name} shape `{S.id.text}`, found {(NodeType.of v).name}").map
        (⟨path, ·⟩) ++ constraintViolations S v path) := by
  simp [visitValue, hS, hb]

/-- **Integer node bounds.** Wherever a walk meets a shape of type `byte`,
`short`, `integer`, `long` or `bigInteger`, in any model, the type check
reports for a number exactly the documented problems: a double is no integer;
an integer outside `[-2^(w-1), 2^(w-1) - 1]` for the width `w` of a bounded
type is out of range; `bigInteger` takes every integer. The constraint traits
come after. -/
theorem visitValue_integer {m : Model} {k : ShapeId} {S : Shape} (hS : m.get? k = some S)
    (ht : S.type ∈ integerTypes) (fuel : Nat) (path : String) (n : Number) :
    visitValue m (fuel + 1) (.num n) k path =
      some ((integerProblems S n).map (⟨path, ·⟩) ++ constraintViolations S (.num n) path) := by
  rw [visitValue_simple hS (body_of_integerType ht)]
  exact congrArg (fun ps => some (List.map _ ps ++ _)) (simpleViolations_integer S ht n)

/-- The `long` shape `ns#L`. -/
def longShape : Shape := ⟨⟨"ns", "L", none⟩, .simple .long, [], .none⟩

/-- `2^63` against `long`: an integer without a 64-bit signed value. -/
theorem visitValue_integer_long_overflow :
    Model.get? ⟨[longShape], []⟩ ⟨"ns", "L", none⟩ = some longShape ∧ longShape.type ∈ integerTypes ∧
      visitValue ⟨[longShape], []⟩ 1 (.num (.nat (2 ^ 63))) ⟨"ns", "L", none⟩ "" =
        some ((integerProblems longShape (.nat (2 ^ 63))).map (⟨"", ·⟩) ++
          constraintViolations longShape (.num (.nat (2 ^ 63))) "") :=
  ⟨rfl, by decide, visitValue_integer rfl (by decide) 0 "" _⟩

example : integerProblems longShape (.nat (2 ^ 63)) =
    ["long value 9223372036854775808 is out of range for shape `ns#L`"] := by
  decide

end ShapeKit
