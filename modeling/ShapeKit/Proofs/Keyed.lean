import Mathlib
import ShapeKit.Load.Loader
import ShapeKit.Proofs.ModelMembers

/-!
# Lists kept in key order

The loader and the model keep their tables as lists in strictly increasing key
order, one element per key, and put a new element where its key belongs,
replacing the element with the same key: `putById` (the loader's shapes and
trait tables), `TraitMap.insert`, `Model.putShape`, `putByKey` and
`Model.putEntry` (metadata) and `ResourceData.putIdentifier`. Each of them is
`Keyed.put` for its key and order (`putById_eq` and the like), so the facts
proved here once hold of all of them:

  * putting keeps the order (`Sorted.put`), and looking a key up afterwards
    finds the new element under its key and the old ones elsewhere
    (`find?_put`);
  * putting an element whose key is above every other appends it
    (`put_of_lt`), so putting the elements of an ordered list one by one
    rebuilds it (`foldl_put_of_sorted`);
  * two ordered lists with the same elements are equal (`Sorted.eq_of_mem_iff`),
    and in an ordered list an element is the one its key finds
    (`Sorted.mem_iff_find?`).
-/

namespace ShapeKit

/-! ## §1. Putting by key -/

namespace Keyed

variable {α κ : Type} (cmp : κ → κ → Ordering) (key : α → κ)

/-- Puts an element where its key belongs, replacing the element with the same key. -/
def put : List α → α → List α
  | [], x => [x]
  | y :: rest, x =>
    match cmp (key x) (key y) with
    | .lt => x :: y :: rest
    | .eq => x :: rest
    | .gt => y :: put rest x

/-- Keys strictly increase along the list. -/
def Sorted (l : List α) : Prop := l.Pairwise fun a b => cmp (key a) (key b) = .lt

variable {cmp key}

theorem mem_put {l : List α} {x z : α} (h : z ∈ put cmp key l x) : z = x ∨ z ∈ l := by
  induction l with
  | nil => simpa [put] using h
  | cons y rest ih =>
    unfold put at h
    split at h
    · simpa using h
    · rcases List.mem_cons.mp h with h | h
      · exact .inl h
      · exact .inr (List.mem_cons_of_mem y h)
    · rcases List.mem_cons.mp h with rfl | h
      · exact .inr List.mem_cons_self
      · exact (ih h).imp_right (List.mem_cons_of_mem y)

/-- Putting an element with a key the list does not have adds just that element. -/
theorem mem_put_of_fresh [Std.LawfulEqCmp cmp] {l : List α} {x z : α} (h : ∀ y ∈ l, key y ≠ key x) :
    z ∈ put cmp key l x ↔ z = x ∨ z ∈ l := by
  induction l with
  | nil => simp [put]
  | cons y rest ih =>
    unfold put
    split
    · simp
    · next heq => exact absurd (Std.LawfulEqCmp.eq_of_compare heq).symm (h y List.mem_cons_self)
    · rw [List.mem_cons, ih fun w hw => h w (List.mem_cons_of_mem y hw), List.mem_cons]
      tauto

/-- Putting an element whose key is above every other key appends it. -/
theorem put_of_lt [Std.OrientedCmp cmp] {l : List α} {x : α}
    (h : ∀ y ∈ l, cmp (key y) (key x) = .lt) : put cmp key l x = l ++ [x] := by
  induction l with
  | nil => rfl
  | cons y rest ih =>
    have hgt : cmp (key x) (key y) = .gt := Std.OrientedCmp.gt_of_lt (h y List.mem_cons_self)
    rw [put, hgt, ih fun z hz => h z (List.mem_cons_of_mem y hz)]
    rfl

/-- Putting the elements of an ordered list one by one after an ordered prefix
whose keys are all below them appends them. -/
theorem foldl_put_of_sorted [Std.OrientedCmp cmp] {acc l : List α} (h : Sorted cmp key (acc ++ l)) :
    l.foldl (put cmp key) acc = acc ++ l := by
  induction l generalizing acc with
  | nil => simp
  | cons x rest ih =>
    have hx : ∀ y ∈ acc, cmp (key y) (key x) = .lt := fun y hy =>
      (List.pairwise_append.mp h).2.2 y hy x List.mem_cons_self
    rw [List.foldl_cons, put_of_lt hx, ih (by simpa using h)]
    simp

theorem Sorted.put [Std.TransCmp cmp] [Std.LawfulEqCmp cmp] {l : List α} (hl : Sorted cmp key l)
    (x : α) : Sorted cmp key (put cmp key l x) := by
  induction l with
  | nil => simp [Keyed.put, Sorted]
  | cons y rest ih =>
    obtain ⟨hy, hrest⟩ := List.pairwise_cons.mp hl
    unfold Keyed.put
    split
    · next hlt =>
      refine List.Pairwise.cons ?_ hl
      intro z hz
      rcases List.mem_cons.mp hz with rfl | hz
      · exact hlt
      · exact Std.TransCmp.lt_trans hlt (hy z hz)
    · next heq =>
      refine List.Pairwise.cons ?_ hrest
      intro z hz
      rw [Std.LawfulEqCmp.eq_of_compare heq]
      exact hy z hz
    · next hgt =>
      refine List.Pairwise.cons ?_ (ih hrest)
      intro z hz
      rcases mem_put hz with rfl | hz
      · exact Std.OrientedCmp.lt_of_gt hgt
      · exact hy z hz

/-- Keys of an ordered list are pairwise distinct. -/
theorem Sorted.nodup_keys [Std.ReflCmp cmp] {l : List α} (hl : Sorted cmp key l) : (l.map key).Nodup := by
  rw [List.nodup_iff_pairwise_ne, List.pairwise_map]
  refine hl.imp fun {_ b} h heq => ?_
  rw [heq, (Std.ReflCmp.compare_self : cmp (key b) (key b) = .eq)] at h
  cases h

/-- Two ordered lists with the same elements are equal. -/
theorem Sorted.eq_of_mem_iff [Std.OrientedCmp cmp] [Std.ReflCmp cmp] {l₁ l₂ : List α}
    (h₁ : Sorted cmp key l₁) (h₂ : Sorted cmp key l₂) (h : ∀ x, x ∈ l₁ ↔ x ∈ l₂) : l₁ = l₂ := by
  have hnodup : ∀ {l : List α}, Sorted cmp key l → l.Nodup := fun hl =>
    List.Nodup.of_map key hl.nodup_keys
  refine List.Perm.eq_of_pairwise (fun a b _ _ hab hba => ?_) h₁ h₂
    ((List.perm_ext_iff_of_nodup (hnodup h₁) (hnodup h₂)).mpr h)
  rw [Std.OrientedCmp.gt_of_lt hab] at hba
  cases hba

/-! ## §2. Looking keys up -/

section Find

variable [DecidableEq κ]

theorem find?_put [Std.LawfulEqCmp cmp] (l : List α) (x : α) (k : κ) :
    (put cmp key l x).find? (key · == k) = if key x = k then some x else l.find? (key · == k) := by
  induction l with
  | nil => by_cases h : key x = k <;> simp [put, h]
  | cons y rest ih =>
    unfold put
    split
    · by_cases h : key x = k <;> simp [h]
    · next heq =>
      -- the replaced element has the same key
      have hxy : key x = key y := Std.LawfulEqCmp.eq_of_compare heq
      by_cases h : key x = k <;> simp [h, ← hxy]
    · next hgt =>
      have hne : key y ≠ key x := fun h => by
        rw [h, (Std.ReflCmp.compare_self : cmp (key x) (key x) = .eq)] at hgt
        cases hgt
      by_cases h' : key y = k
      · have hx : key x ≠ k := fun h => hne (h'.trans h.symm)
        simp [h', hx]
      · simp [h', ih]

/-- In an ordered list, an element is there exactly when its key finds it. -/
theorem Sorted.mem_iff_find? [Std.LawfulEqCmp cmp] {l : List α} (hl : Sorted cmp key l) (x : α) :
    x ∈ l ↔ l.find? (key · == key x) = some x := by
  constructor
  · intro hx
    have hsome : (l.find? (key · == key x)).isSome := List.find?_isSome.mpr ⟨x, hx, beq_self_eq_true _⟩
    obtain ⟨y, hy⟩ := Option.isSome_iff_exists.mp hsome
    have hky : key y = key x := by simpa using List.find?_some hy
    have hymem : y ∈ l := List.mem_of_find?_eq_some hy
    -- one element per key: the one found is `x` itself
    have hinj := List.inj_on_of_nodup_map hl.nodup_keys
    rw [hy, hinj hymem hx hky]
  · exact List.mem_of_find?_eq_some

/-- A key above every key of a list finds nothing in it. -/
theorem find?_eq_none_of_lt [Std.ReflCmp cmp] {l : List α} {k : κ} (h : ∀ y ∈ l, cmp (key y) k = .lt) :
    l.find? (key · == k) = none := by
  rw [List.find?_eq_none]
  intro y hy heq
  have hky : key y = k := by simpa using heq
  have hlt := h y hy
  rw [hky, (Std.ReflCmp.compare_self : cmp k k = .eq)] at hlt
  cases hlt

/-- Putting an element whose key an ordered list already has replaces the
element with that key, in place. -/
theorem Sorted.put_eq_map [Std.OrientedCmp cmp] [Std.LawfulEqCmp cmp] {l : List α} (hl : Sorted cmp key l)
    {x y : α} (hy : y ∈ l) (hk : key y = key x) :
    Keyed.put cmp key l x = l.map fun z => if key z = key x then x else z := by
  induction l with
  | nil => cases hy
  | cons z rest ih =>
    obtain ⟨hz, hrest⟩ := List.pairwise_cons.mp hl
    by_cases hzx : key z = key x
    · -- `z` is the element replaced; every later key is above it
      have hkeep : rest.map (fun w => if key w = key x then x else w) = rest := by
        refine List.map_congr_left (fun w hw => ?_) |>.trans (List.map_id rest)
        have hne : key w ≠ key x := fun h => by
          have hlt := hz w hw
          rw [h, ← hzx, (Std.ReflCmp.compare_self : cmp (key z) (key z) = .eq)] at hlt
          cases hlt
        simp [hne]
      have heq : cmp (key x) (key z) = .eq := by
        rw [hzx]
        exact Std.ReflCmp.compare_self
      rw [Keyed.put, heq, List.map_cons, if_pos hzx, hkeep]
    · rcases List.mem_cons.mp hy with rfl | hy
      · exact absurd hk hzx
      · have hgt : cmp (key x) (key z) = .gt := Std.OrientedCmp.gt_of_lt (hk ▸ hz y hy)
        rw [Keyed.put, hgt, ih hrest hy, List.map_cons, if_neg hzx]

/-- Looking a key up in a list of pairs finds the pair with that key. -/
theorem lookup_eq_find? {β : Type} (l : List (κ × β)) (k : κ) :
    l.lookup k = (l.find? (·.1 == k)).map (·.2) := by
  induction l with
  | nil => rfl
  | cons p rest ih =>
    obtain ⟨k', v⟩ := p
    by_cases h : k' = k
    · subst h
      simp
    · have h' : (k == k') = false := beq_false_of_ne (Ne.symm h)
      simp [List.lookup, h', h, ih]

/-- In an ordered list of pairs, the key of a pair looks up its value. -/
theorem Sorted.lookup_of_mem [Std.LawfulEqCmp cmp] {β : Type} {l : List (κ × β)}
    (hl : Sorted cmp Prod.fst l) {p : κ × β} (hp : p ∈ l) : l.lookup p.1 = some p.2 := by
  rw [lookup_eq_find?, (hl.mem_iff_find? p).mp hp]
  rfl

/-- Looking a key up after a put finds the new value under its key and the old
values elsewhere. -/
theorem lookup_put [Std.LawfulEqCmp cmp] {β : Type} (l : List (κ × β)) (k k' : κ) (v : β) :
    (put cmp Prod.fst l (k, v)).lookup k' = if k = k' then some v else l.lookup k' := by
  rw [lookup_eq_find?, find?_put, lookup_eq_find?]
  split <;> rfl

/-- A key that finds nothing is the key of no element. -/
theorem lookup_eq_none_iff {β : Type} {l : List (κ × β)} {k : κ} :
    l.lookup k = none ↔ ∀ p ∈ l, p.1 ≠ k := by
  rw [lookup_eq_find?, Option.map_eq_none_iff, List.find?_eq_none]
  simp

end Find

end Keyed

/-! ## §3. The tables of the loader and the model -/

namespace ShapeId

instance : Std.LawfulEqCmp ShapeId.compare where
  compare_self := compare_eq_iff_eq.mpr rfl
  eq_of_compare := compare_eq_iff_eq.mp

end ShapeId

open Keyed

theorem putById_eq {α : Type} (l : List (ShapeId × α)) (k : ShapeId) (v : α) :
    putById l k v = put ShapeId.compare Prod.fst l (k, v) := by
  induction l with
  | nil => rfl
  | cons p rest ih =>
    obtain ⟨k', v'⟩ := p
    simp only [putById, put]
    -- both sides branch on the same comparison
    cases ShapeId.compare k k' with
    | lt => rfl
    | eq => rfl
    | gt => rw [ih]

theorem TraitMap.insert_eq (m : TraitMap) (t : Trait) : m.insert t = put ShapeId.compare Trait.id m t := by
  induction m with
  | nil => rfl
  | cons u rest ih =>
    simp only [TraitMap.insert, put]
    cases ShapeId.compare t.id u.id with
    | lt => rfl
    | eq => rfl
    | gt => rw [ih]

theorem Model.putShape_eq (l : List Shape) (s : Shape) :
    Model.putShape l s = put ShapeId.compare Shape.id l s := by
  induction l with
  | nil => rfl
  | cons t rest ih =>
    simp only [Model.putShape, put]
    cases ShapeId.compare s.id t.id with
    | lt => rfl
    | eq => rfl
    | gt => rw [ih]

/-- Text keys compare as `compare` orders them: below, equal or above. -/
theorem String.compare_eq_ite (a b : String) :
    compare a b = if a < b then .lt else if a = b then .eq else .gt := rfl

theorem putByKey_eq {α : Type} (l : List (String × α)) (k : String) (v : α) :
    putByKey l k v = put compare Prod.fst l (k, v) := by
  induction l with
  | nil => rfl
  | cons p rest ih =>
    obtain ⟨k', v'⟩ := p
    simp only [putByKey, put, String.compare_eq_ite]
    split_ifs <;> simp_all

theorem Model.putEntry_eq (l : List (String × Json.Node)) (k : String) (v : Json.Node) :
    Model.putEntry l k v = put compare Prod.fst l (k, v) := by
  induction l with
  | nil => rfl
  | cons p rest ih =>
    obtain ⟨k', v'⟩ := p
    simp only [Model.putEntry, put, String.compare_eq_ite]
    split_ifs <;> simp_all

theorem ResourceData.putIdentifier_eq (ids : List (String × ShapeId)) (name : String) (t : ShapeId) :
    ResourceData.putIdentifier ids name t = put compare Prod.fst ids (name, t) := by
  induction ids with
  | nil => rfl
  | cons p rest ih =>
    obtain ⟨n, t'⟩ := p
    simp only [ResourceData.putIdentifier, put, String.compare_eq_ite]
    split_ifs <;> simp_all

end ShapeKit
