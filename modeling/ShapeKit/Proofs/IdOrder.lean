import Mathlib.Data.String.Basic
import ShapeKit.Proofs.IdText

/-!
# The order of IDs is the order of their texts

IDs order by namespace, then name, then member, "no member" first
(`ShapeId.compare`). For valid IDs this is exactly the order of their texts
`ns#Name$member`, character by character: every listing sorted by ID is also
sorted by text.

The two orders agree because the separators sort below every character that
may stand before them: `#` below `.` and every identifier character, `$` below
every identifier character. So where one part is a proper prefix of the other,
the shorter text meets its separator (or its end) where the longer one goes on
with a larger character.

Main statement: `ShapeId.compare_eq_compare_text`.
-/

namespace ShapeKit

/-! ## §1. Texts compare as their character lists -/

theorem List.compare_eq_lt_iff_lt_char : ∀ {l₁ l₂ : List Char}, compare l₁ l₂ = .lt ↔ l₁ < l₂
  | [], [] => by simp
  | [], _ :: _ => by simp
  | _ :: _, [] => by simp
  | a :: as, b :: bs => by
    rw [List.compare_cons_cons, List.cons_lt_cons_iff, Ordering.then_eq_lt, compare_eq_iff_eq,
      compare_lt_iff_lt, List.compare_eq_lt_iff_lt_char]

/-- Texts compare as the lists of their characters, lexicographically. -/
theorem String.compare_eq_compare_toList (s t : String) :
    Ord.compare s t = Ord.compare s.toList t.toList := by
  cases h : Ord.compare s.toList t.toList with
  | lt => exact compare_lt_iff_lt.2 (List.compare_eq_lt_iff_lt_char.1 h)
  | eq => exact compare_eq_iff_eq.2 (String.toList_inj.1 (Std.compare_eq_iff_eq.1 h))
  | gt => exact compare_gt_iff_gt.2 (List.compare_eq_lt_iff_lt_char.1 (Std.OrientedCmp.gt_iff_lt.1 h))

/-! ## §2. Parts cut off by a separator -/

/-- Two texts made of a part and a continuation compare by their parts first,
then by their continuations, when every character of the parts sorts after a
separator and each continuation is empty or starts at or below it. The
induction runs along the two parts; where one ends first, its continuation
meets a larger character of the other. -/
theorem compare_append_of_separator {sep : Char} :
    ∀ {x y r s : List Char}, (∀ c ∈ x, sep < c) → (∀ c ∈ y, sep < c) →
      (∀ c ∈ r.head?, c ≤ sep) → (∀ c ∈ s.head?, c ≤ sep) →
      compare (x ++ r) (y ++ s) = (compare x y).then (compare r s)
  | [], [], _, _, _, _, _, _ => by simp
  | [], d :: y, r, _, _, hy, hr, _ => by
    cases r with
    | nil => simp
    | cons c r =>
      have hcd : c < d := lt_of_le_of_lt (hr c rfl) (hy d List.mem_cons_self)
      simp [compare_lt_iff_lt.2 hcd]
  | c :: x, [], _, s, hx, _, _, hs => by
    cases s with
    | nil => simp
    | cons d s =>
      have hdc : d < c := lt_of_le_of_lt (hs d rfl) (hx c List.mem_cons_self)
      simp [compare_gt_iff_gt.2 hdc]
  | c :: x, d :: y, _, _, hx, hy, hr, hs => by
    have ih := compare_append_of_separator (fun a ha => hx a (List.mem_cons_of_mem c ha))
      (fun a ha => hy a (List.mem_cons_of_mem d ha)) hr hs
    rw [List.cons_append, List.cons_append, List.compare_cons_cons, List.compare_cons_cons, ih,
      Ordering.then_assoc]

/-! ## §3. The characters of IDs -/

/-- Every identifier character (a letter, a digit or `_`) sorts after `.`. -/
theorem dot_lt_of_isIdentChar {c : Char} (h : isIdentChar c = true) : '.' < c := by
  simp only [isIdentChar, Char.isAlphanum, Char.isAlpha, Char.isUpper, Char.isLower, Char.isDigit,
    Bool.or_eq_true, Bool.and_eq_true, decide_eq_true_eq, ge_iff_le, UInt32.le_iff_toNat_le] at h
  rw [Char.lt_def, UInt32.lt_iff_toNat_lt]
  rcases h with h | rfl
  · simp at h ⊢
    omega
  · decide

theorem hash_lt_of_isNamespace {s : String} (h : isNamespace s = true) :
    ∀ c ∈ s.toList, '#' < c := by
  intro c hc
  rcases isNamespace_chars h c hc with hc | rfl
  · exact lt_trans (by decide) (dot_lt_of_isIdentChar hc)
  · decide

theorem dollar_lt_of_isIdentifier {s : String} (h : isIdentifier s = true) :
    ∀ c ∈ s.toList, '$' < c :=
  fun c hc => lt_trans (by decide) (dot_lt_of_isIdentChar ((isIdentifier_chars h).2 c hc))

namespace ShapeId

/-- The text after the name: `$member`, or nothing. -/
def memberSuffix (member : Option String) : List Char :=
  match member with
  | some m => '$' :: m.toList
  | none => []

theorem text_toList_eq (id : ShapeId) :
    id.text.toList = id.ns.toList ++ '#' :: (id.name.toList ++ memberSuffix id.member) := by
  rw [text_toList]
  rfl

/-- The member parts of two texts compare as `compareMember`: no member first. -/
theorem compare_memberSuffix (a b : Option String) :
    Ord.compare (memberSuffix a) (memberSuffix b) = compareMember a b := by
  cases a <;> cases b <;> simp [memberSuffix, compareMember, String.compare_eq_compare_toList]

/-! ## §4. The two orders agree -/

/-- **ID order is text order.** Two valid IDs compare structurally (namespace,
then name, then member, with no member first) exactly as their texts compare
character by character. -/
theorem compare_eq_compare_text {a b : ShapeId} (ha : a.Valid) (hb : b.Valid) :
    ShapeId.compare a b = Ord.compare a.text b.text := by
  have hsuffix : ∀ m : Option String, ∀ c ∈ (memberSuffix m).head?, c ≤ '$' := by
    intro m c hc
    cases m with
    | none => cases hc
    | some _ =>
      cases hc
      exact le_refl _
  have hhash : Ord.compare '#' '#' = .eq := compare_eq_iff_eq.2 rfl
  rw [String.compare_eq_compare_toList, text_toList_eq, text_toList_eq,
    compare_append_of_separator (hash_lt_of_isNamespace ha.ns) (hash_lt_of_isNamespace hb.ns)
      (by simp) (by simp),
    List.compare_cons_cons, hhash, Ordering.eq_then,
    compare_append_of_separator (dollar_lt_of_isIdentifier ha.name)
      (dollar_lt_of_isIdentifier hb.name) (hsuffix _) (hsuffix _),
    compare_memberSuffix, ← String.compare_eq_compare_toList, ← String.compare_eq_compare_toList]
  rfl

/-- `ns#Z` sorts before `ns.a#A` both ways: by namespace, `ns` is a prefix of
`ns.a`; by text, `#` sorts before `.`. -/
theorem compare_eq_compare_text_namespace_prefix :
    Valid ⟨"ns", "Z", none⟩ ∧ Valid ⟨"ns.a", "A", none⟩ ∧
      ShapeId.compare ⟨"ns", "Z", none⟩ ⟨"ns.a", "A", none⟩ = Ord.compare "ns#Z" "ns.a#A" := by
  have ha : Valid ⟨"ns", "Z", none⟩ :=
    Valid.of_parts (by decide +kernel) (by decide +kernel) (fun _ h => by cases h)
  have hb : Valid ⟨"ns.a", "A", none⟩ :=
    Valid.of_parts (by decide +kernel) (by decide +kernel) (fun _ h => by cases h)
  exact ⟨ha, hb, compare_eq_compare_text ha hb⟩

end ShapeId

end ShapeKit
