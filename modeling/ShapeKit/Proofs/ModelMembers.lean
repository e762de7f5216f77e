import Mathlib.Data.List.Nodup
import ShapeKit.Proofs.ShapeBuild

/-!
# Members registered in a model

A model keeps members under their own IDs next to the shapes that contain them.
Two facts make that index consistent:

  * *registered*: every member of a non-member shape in the model is in the
    model under its own ID;
  * *owned*: every member in the model is the member of that name of the
    non-member shape stored under its container's ID, so no member is stale
    (left over from a replaced shape) or an orphan.

Putting a shape first drops the members of the shape it replaces, and removing
a shape removes its members, so both keep the two facts. Adding another model
copies its shapes one by one without that clean-up: when the added model has
both facts itself, the result stays *registered*, and stays *owned* exactly
when no member of the builder sits under a container that the added model
holds without that member (`Model.addModel_owned_iff`).

Main statements:
  * `ModelOp.run_consistent` — every run from the empty model whose added
    models leave no stale member keeps both facts.
  * `ModelOp.addModel_leaves_stale_member` — a run that replaces a structure
    through an added model keeps a member the new structure does not have.
-/

namespace ShapeKit

/-! ## §1. The order of IDs -/

namespace ShapeId

/-- IDs compare lexicographically by namespace, name and member. -/
theorem compare_eq_compareLex : ShapeId.compare =
    compareLex (compareOn ShapeId.ns) (compareLex (compareOn ShapeId.name) (compareOn ShapeId.member)) := by
  funext a b
  rcases a with ⟨_, _, _ | _⟩ <;> rcases b with ⟨_, _, _ | _⟩ <;> rfl

instance : Std.TransCmp ShapeId.compare := by
  rw [compare_eq_compareLex]
  infer_instance

theorem compare_eq_iff_eq {a b : ShapeId} : ShapeId.compare a b = .eq ↔ a = b := by
  rw [compare_eq_compareLex]
  simp only [compareLex, compareOn, Ordering.then_eq_eq, Std.LawfulEqOrd.compare_eq_iff_eq]
  constructor
  · rintro ⟨h1, h2, h3⟩
    cases a
    cases b
    simp_all
  · rintro rfl
    simp

theorem ne_of_compare_lt {a b : ShapeId} (h : ShapeId.compare a b = .lt) : a ≠ b := by
  rintro rfl
  rw [compare_eq_iff_eq.mpr rfl] at h
  cases h

@[simp] theorem withoutMember_withoutMember (k : ShapeId) :
    k.withoutMember.withoutMember = k.withoutMember := rfl

/-- An ID without a member name is its own container ID. -/
theorem withoutMember_eq_self {k : ShapeId} (h : k.isMember = false) : k.withoutMember = k := by
  rcases k with ⟨ns, name, _ | n⟩
  · rfl
  · cases h

end ShapeId

/-! ## §2. Shapes kept by ID -/

namespace Model

/-- Shapes in strictly increasing ID order, hence one per ID. -/
def IdSorted (l : List Shape) : Prop := l.Pairwise fun a b => ShapeId.compare a.id b.id = .lt

theorem mem_putShape {l : List Shape} {s x : Shape} (h : x ∈ putShape l s) : x = s ∨ x ∈ l := by
  induction l with
  | nil => simpa [putShape] using h
  | cons t rest ih =>
      unfold putShape at h
      split at h
      · simpa using h
      · rcases List.mem_cons.mp h with h | h
        · exact .inl h
        · exact .inr (List.mem_cons_of_mem t h)
      · rcases List.mem_cons.mp h with h | h
        · exact .inr (h ▸ List.mem_cons_self)
        · rcases ih h with h | h
          · exact .inl h
          · exact .inr (List.mem_cons_of_mem t h)

/-- Looking up an ID in a list that starts with a shape. -/
theorem find?_cons_id (a : Shape) (l : List Shape) (k : ShapeId) :
    (a :: l).find? (·.id == k) = if a.id = k then some a else l.find? (·.id == k) := by
  by_cases h : a.id = k <;> simp [h]

/-- Looking up after putting a shape finds the shape under its own ID and the
old entries elsewhere. -/
theorem find?_putShape (l : List Shape) (s : Shape) (k : ShapeId) :
    (putShape l s).find? (·.id == k) = if s.id = k then some s else l.find? (·.id == k) := by
  induction l with
  | nil => by_cases h : s.id = k <;> simp [putShape, h]
  | cons t rest ih =>
      unfold putShape
      split
      · by_cases h : s.id = k <;> simp [h]
      · next heq =>
          -- the replaced entry has the same ID
          have hst : s.id = t.id := ShapeId.compare_eq_iff_eq.mp heq
          by_cases h : s.id = k <;> simp [h, ← hst]
      · next hgt =>
          have hne : t.id ≠ s.id := fun h => by
            rw [h, ShapeId.compare_eq_iff_eq.mpr rfl] at hgt
            cases hgt
          rw [find?_cons_id, ih, find?_cons_id]
          by_cases h : s.id = k <;> by_cases h' : t.id = k <;> simp_all

theorem IdSorted.putShape {l : List Shape} (hl : IdSorted l) (s : Shape) :
    IdSorted (putShape l s) := by
  induction l with
  | nil => simp [Model.putShape, IdSorted]
  | cons t rest ih =>
      obtain ⟨ht, hrest⟩ := List.pairwise_cons.mp hl
      unfold Model.putShape
      split
      · next hlt =>
          refine List.Pairwise.cons ?_ hl
          intro x hx
          rcases List.mem_cons.mp hx with rfl | hx
          · exact hlt
          · exact Std.TransCmp.lt_trans hlt (ht x hx)
      · next heq =>
          refine List.Pairwise.cons ?_ hrest
          intro x hx
          rw [ShapeId.compare_eq_iff_eq.mp heq]
          exact ht x hx
      · next hgt =>
          refine List.Pairwise.cons ?_ (ih hrest)
          intro x hx
          rcases mem_putShape hx with rfl | hx
          · exact Std.OrientedCmp.lt_of_gt hgt
          · exact ht x hx

theorem IdSorted.foldl_putShape {l : List Shape} (hl : IdSorted l) (ss : List Shape) :
    IdSorted (ss.foldl Model.putShape l) := by
  induction ss generalizing l with
  | nil => exact hl
  | cons s ss ih => exact ih (hl.putShape s)

/-- Sorted shapes have pairwise distinct IDs. -/
theorem IdSorted.ids_nodup {l : List Shape} (hl : IdSorted l) : (l.map (·.id)).Nodup := by
  rw [List.nodup_iff_pairwise_ne, List.pairwise_map]
  exact hl.imp ShapeId.ne_of_compare_lt

/-- In a list with one entry per key, the entry found under a key is the one
with that key. -/
theorem find?_key_eq_some_iff {α β : Type} [BEq β] [LawfulBEq β] {key : α → β} {l : List α}
    (hl : (l.map key).Nodup) {k : β} {x : α} :
    l.find? (fun y => key y == k) = some x ↔ x ∈ l ∧ key x = k := by
  constructor
  · intro h
    exact ⟨List.mem_of_find?_eq_some h, beq_iff_eq.mp (List.find?_some (p := fun y => key y == k) h)⟩
  · rintro ⟨hx, rfl⟩
    obtain ⟨y, hy⟩ : ∃ y, l.find? (fun y => key y == key x) = some y := by
      cases h : l.find? (fun y => key y == key x) with
      | some y => exact ⟨y, rfl⟩
      | none => exact absurd (beq_self_eq_true (key x)) (List.find?_eq_none.mp h x hx)
    have hyx : key y = key x := beq_iff_eq.mp (List.find?_some (p := fun y => key y == key x) hy)
    rw [hy, List.inj_on_of_nodup_map hl (List.mem_of_find?_eq_some hy) hx hyx]

/-- With one shape per ID, the first and the last shape with an ID are the same. -/
theorem find?_reverse_of_nodup {l : List Shape} (hl : (l.map (·.id)).Nodup) (k : ShapeId) :
    l.reverse.find? (·.id == k) = l.find? (·.id == k) := by
  induction l with
  | nil => rfl
  | cons a l ih =>
      rw [List.map_cons, List.nodup_cons] at hl
      rw [List.reverse_cons, List.find?_append, ih hl.2, find?_cons_id]
      by_cases h : a.id = k
      · have hnone : l.find? (·.id == k) = none := by
          rw [List.find?_eq_none]
          intro x hx hxk
          exact hl.1 (h ▸ beq_iff_eq.mp hxk ▸ List.mem_map_of_mem hx)
        simp [h, hnone]
      · simp [h]

/-- Putting shapes in order: the last one put under an ID wins. -/
theorem find?_foldl_putShape (ss l : List Shape) (k : ShapeId) :
    (ss.foldl putShape l).find? (·.id == k) = (ss.reverse.find? (·.id == k)).or (l.find? (·.id == k)) := by
  induction ss generalizing l with
  | nil => simp
  | cons s ss ih =>
      rw [List.foldl_cons, ih, find?_putShape, List.reverse_cons, List.find?_append,
        Option.or_assoc]
      by_cases h : s.id = k <;> simp [h]

end Model

/-! ## §3. The members of a well-formed shape -/

namespace Shape.WellFormed

variable {s : Shape} (hs : s.WellFormed)
include hs

/-- A well-formed container has a container ID. -/
theorem id_not_isMember (hc : s.isMember = false) : s.id.isMember = false :=
  hs.id_isMember.trans hc

theorem find?_member_eq_some_iff {k : ShapeId} {x : Shape} :
    s.memberShapes.find? (·.id == k) = some x ↔ x ∈ s.memberShapes ∧ x.id = k :=
  Model.find?_key_eq_some_iff hs.ids_nodup

/-- No member of a shape has an ID outside that shape. -/
theorem find?_member_eq_none {k : ShapeId} (hk : k.withoutMember ≠ s.id) :
    s.memberShapes.find? (·.id == k) = none :=
  List.find?_eq_none.mpr fun x hx hxk => hk (beq_iff_eq.mp hxk ▸ (hs.member_id x hx).2)

/-- The member of a name is the member shape whose ID carries that name. -/
theorem member?_eq_some_iff {n : String} {M : Shape} :
    s.member? n = some M ↔ M ∈ s.memberShapes ∧ M.id.member = some n :=
  Model.find?_key_eq_some_iff hs.names_nodup

/-- Every member is the member of its own name. -/
theorem member?_of_mem {M : Shape} (hM : M ∈ s.memberShapes) :
    ∃ n, M.id.member = some n ∧ s.member? n = some M := by
  obtain ⟨n, hn⟩ := Option.isSome_iff_exists.mp (hs.member_id M hM).1
  exact ⟨n, hn, hs.member?_eq_some_iff.mpr ⟨hM, hn⟩⟩

end Shape.WellFormed

namespace Model

/-! ## §4. What each operation leaves in the model -/

/-- A model lookup finds a shape with the ID looked up. -/
theorem id_of_get? {m : Model} {k : ShapeId} {S : Shape} (h : m.get? k = some S) : S.id = k :=
  beq_iff_eq.mp (List.find?_some (p := fun x : Shape => x.id == k) h)

theorem find?_filter_id (l : List Shape) (p : ShapeId → Bool) (k : ShapeId) :
    (l.filter fun x => p x.id).find? (·.id == k) = if p k then l.find? (·.id == k) else none := by
  rw [List.find?_filter]
  by_cases h : p k
  · rw [if_pos h]
    congr 1
    funext x
    by_cases hx : x.id = k <;> simp [hx, h]
  · rw [if_neg h, List.find?_eq_none]
    intro x _ hx
    simp only [beq_iff_eq, decide_eq_true_eq] at hx
    exact h (hx.2 ▸ hx.1)

/-- The IDs of the members of the shape that a shape put under `s.id` replaces. -/
def staleIds (m : Model) (s : Shape) : List ShapeId :=
  match m.get? s.id with
  | some prev => prev.memberShapes.map (·.id)
  | none => []

theorem insertShape_shapes (m : Model) (s : Shape) :
    (m.insertShape s).shapes = putShape (s.memberShapes.foldl putShape
      (m.shapes.filter fun x => !(m.staleIds s).contains x.id)) s := by
  unfold insertShape staleIds
  cases m.get? s.id <;> rfl

/-- After putting a shape: the shape under its ID, its members under theirs, the
members of the shape it replaced gone, and the rest as it was. -/
theorem get?_insertShape (m : Model) (s : Shape) (hs : (s.memberShapes.map (·.id)).Nodup)
    (k : ShapeId) :
    (m.insertShape s).get? k = if s.id = k then some s else
      (s.memberShapes.find? (·.id == k)).or (if k ∈ m.staleIds s then none else m.get? k) := by
  unfold get?
  rw [insertShape_shapes, find?_putShape, find?_foldl_putShape, find?_reverse_of_nodup hs,
    find?_filter_id _ (fun i => !(m.staleIds s).contains i)]
  by_cases h : k ∈ m.staleIds s <;> simp [h]

/-- After removing a shape: it and its members are gone, the rest as it was. -/
theorem get?_removeShape (m : Model) (id k : ShapeId) :
    (m.removeShape id).get? k = match m.get? id with
      | none => m.get? k
      | some S => if k = id ∨ k ∈ S.memberShapes.map (·.id) then none else m.get? k := by
  unfold removeShape
  cases m.get? id with
  | none => rfl
  | some S =>
      show (m.shapes.filter fun x => !(id :: S.memberShapes.map (·.id)).contains x.id).find?
        (·.id == k) = _
      rw [find?_filter_id _ (fun i => !(id :: S.memberShapes.map (·.id)).contains i)]
      by_cases h : k = id ∨ k ∈ S.memberShapes.map (·.id) <;> simp_all [get?]

/-- After adding a model: its shapes where it has one, the old ones elsewhere. -/
theorem get?_addModel (m o : Model) (ho : IdSorted o.shapes) (k : ShapeId) :
    (m.addModel o).get? k = (o.get? k).or (m.get? k) := by
  show (o.shapes.foldl putShape m.shapes).find? (·.id == k) = _
  rw [find?_foldl_putShape, find?_reverse_of_nodup ho.ids_nodup]
  rfl

/-! ## §5. The two invariants, operation by operation -/

/-- The index facts every operation keeps when the models it reads have them. -/
structure Indexed (m : Model) : Prop where
  /-- One shape per ID, in ID order. -/
  sorted : IdSorted m.shapes
  /-- Every stored shape is well formed. -/
  wellFormed : ∀ {k S}, m.get? k = some S → S.WellFormed
  /-- Every member of a stored container is stored under its own ID. -/
  registered : ∀ {k S}, m.get? k = some S → S.isMember = false →
    ∀ x ∈ S.memberShapes, m.get? x.id = some x

/-- Every stored member is the member of its name of the container stored under
its container ID: no member is stale or an orphan. -/
def Owned (m : Model) : Prop :=
  ∀ {k M}, m.get? k = some M → M.isMember = true →
    ∃ n S, M.id.member = some n ∧ m.get? M.id.withoutMember = some S ∧ S.isMember = false ∧
      S.member? n = some M

/-- Every member of `m` whose container `o` holds is held by `o` too, so that
adding `o` to `m` replaces it. -/
def NoStale (m o : Model) : Prop :=
  ∀ {k M}, m.get? k = some M → M.isMember = true →
    (o.get? M.id.withoutMember).isSome = true → (o.get? k).isSome = true

theorem indexed_empty : (({} : Model)).Indexed where
  sorted := List.Pairwise.nil
  wellFormed h := by cases h
  registered h := by cases h

theorem owned_empty : (({} : Model)).Owned := fun h => by cases h

section Facts

variable {m : Model} (hm : m.Indexed)
include hm

/-- A stored container sits under a container ID. -/
theorem Indexed.id_not_isMember {k : ShapeId} {S : Shape} (h : m.get? k = some S)
    (hc : S.isMember = false) : k.isMember = false :=
  id_of_get? h ▸ (hm.wellFormed h).id_not_isMember hc

/-- The members a shape put under `s.id` replaces belong to `s.id`. -/
theorem Indexed.mem_staleIds {s : Shape} {k : ShapeId} (h : k ∈ m.staleIds s) :
    k.isMember = true ∧ k.withoutMember = s.id := by
  unfold staleIds at h
  split at h
  · next prev hprev =>
      obtain ⟨x, hx, rfl⟩ := List.mem_map.mp h
      rw [← id_of_get? hprev]
      exact (hm.wellFormed hprev).member_id x hx
  · cases h

end Facts

theorem mem_staleIds_of_mem {m : Model} {s S x : Shape} (hS : m.get? s.id = some S)
    (hx : x ∈ S.memberShapes) : x.id ∈ m.staleIds s := by
  unfold staleIds
  rw [hS]
  exact List.mem_map_of_mem hx

/-! ### Putting a shape -/

section Insert

variable {m : Model} {s : Shape} (hs : s.WellFormed) (hc : s.isMember = false)
include hs

theorem get?_insertShape_self : (m.insertShape s).get? s.id = some s := by
  rw [get?_insertShape m s hs.ids_nodup, if_pos rfl]

/-- What a lookup after putting a shape can find. -/
theorem get?_insertShape_eq_some {k : ShapeId} {S : Shape} (h : (m.insertShape s).get? k = some S) :
    (k = s.id ∧ S = s) ∨ S ∈ s.memberShapes ∨
      (s.id ≠ k ∧ k ∉ m.staleIds s ∧ m.get? k = some S) := by
  rw [get?_insertShape m s hs.ids_nodup] at h
  split at h
  · next hk => exact .inl ⟨hk.symm, (Option.some.inj h).symm⟩
  · next hself =>
    cases hf : s.memberShapes.find? (·.id == k) with
    | some x =>
        rw [hf, Option.some_or] at h
        cases h
        exact .inr (.inl (List.mem_of_find?_eq_some hf))
    | none =>
        rw [hf, Option.none_or] at h
        split at h
        · cases h
        · next hk => exact .inr (.inr ⟨hself, hk, h⟩)

include hc

theorem get?_insertShape_member {x : Shape} (hx : x ∈ s.memberShapes) :
    (m.insertShape s).get? x.id = some x := by
  have hne : s.id ≠ x.id := fun h => by
    have hx' := (hs.member_id x hx).1
    rw [← h, hs.id_not_isMember hc] at hx'
    cases hx'
  rw [get?_insertShape m s hs.ids_nodup, if_neg hne, hs.find?_member_eq_some_iff.mpr ⟨hx, rfl⟩,
    Option.some_or]

/-- Putting a shape leaves every ID outside its container alone. -/
theorem get?_insertShape_of_container_ne (hm : m.Indexed) {k : ShapeId}
    (hk : k.withoutMember ≠ s.id) : (m.insertShape s).get? k = m.get? k := by
  have hself : s.id ≠ k := fun h => hk (h ▸ ShapeId.withoutMember_eq_self (hs.id_not_isMember hc))
  have hstale : k ∉ m.staleIds s := fun h => hk (hm.mem_staleIds h).2
  rw [get?_insertShape m s hs.ids_nodup, if_neg hself, hs.find?_member_eq_none hk, Option.none_or,
    if_neg hstale]

theorem Indexed.insertShape (hm : m.Indexed) : (m.insertShape s).Indexed where
  sorted := by
    rw [insertShape_shapes]
    exact (IdSorted.foldl_putShape (List.Pairwise.filter _ hm.sorted) _).putShape s
  wellFormed h := by
    rcases get?_insertShape_eq_some hs h with ⟨-, rfl⟩ | hS | ⟨-, -, hS⟩
    · exact hs
    · exact hs.member_wellFormed hS
    · exact hm.wellFormed hS
  registered {k S} h hS := by
    intro x hx
    rcases get?_insertShape_eq_some hs h with ⟨-, rfl⟩ | hmem | ⟨hne, -, hold⟩
    · exact get?_insertShape_member hs hc hx
    · rw [Shape.memberShapes_isMember hmem] at hS
      cases hS
    · -- a container kept from before: its members lie outside the new shape
      have hk : x.id.withoutMember ≠ s.id := by
        rw [((hm.wellFormed hold).member_id x hx).2, id_of_get? hold]
        exact Ne.symm hne
      rw [get?_insertShape_of_container_ne hs hc hm hk]
      exact hm.registered hold hS x hx

theorem Owned.insertShape (hm : m.Indexed) (ho : m.Owned) : (m.insertShape s).Owned := by
  intro k M h hM
  rcases get?_insertShape_eq_some hs h with ⟨-, rfl⟩ | hmem | ⟨-, hstale, hold⟩
  · rw [hc] at hM
    cases hM
  · -- a member of the new shape belongs to it
    obtain ⟨n, hn, hsm⟩ := hs.member?_of_mem hmem
    refine ⟨n, s, hn, ?_, hc, hsm⟩
    rw [(hs.member_id M hmem).2]
    exact get?_insertShape_self hs
  · obtain ⟨n, C, hn, hC, hCc, hCm⟩ := ho hold hM
    -- its container is not the new shape's ID, or the member would have been dropped
    have hne : M.id.withoutMember ≠ s.id := by
      intro heq
      rw [heq] at hC
      have hstale' := mem_staleIds_of_mem hC ((hm.wellFormed hC).member?_eq_some_iff.mp hCm).1
      rw [id_of_get? hold] at hstale'
      exact hstale hstale'
    refine ⟨n, C, hn, ?_, hCc, hCm⟩
    rw [get?_insertShape_of_container_ne hs hc hm (by rwa [ShapeId.withoutMember_withoutMember])]
    exact hC

end Insert

theorem insertShapes_consistent {m : Model} {ss : List Shape}
    (hss : ∀ s ∈ ss, s.WellFormed ∧ s.isMember = false) (hm : m.Indexed) (ho : m.Owned) :
    (m.insertShapes ss).Indexed ∧ (m.insertShapes ss).Owned := by
  induction ss generalizing m with
  | nil => exact ⟨hm, ho⟩
  | cons s ss ih =>
      obtain ⟨hs, hc⟩ := hss s List.mem_cons_self
      exact ih (fun x hx => hss x (List.mem_cons_of_mem s hx)) (hm.insertShape hs hc)
        (ho.insertShape hs hc hm)

/-! ### Removing a shape -/

section Remove

variable {m : Model} {id : ShapeId} (hm : m.Indexed)
include hm

/-- What a lookup after removing a container can find: a shape outside it. -/
theorem get?_removeShape_eq_some (ho : m.Owned) {k : ShapeId} {S : Shape}
    (h : (m.removeShape id).get? k = some S) : m.get? k = some S ∧ k.withoutMember ≠ id := by
  rw [get?_removeShape] at h
  split at h
  · next hnone =>
      refine ⟨h, fun hk => ?_⟩
      -- nothing is stored under a missing container, members included
      cases hS : S.isMember
      · rw [ShapeId.withoutMember_eq_self (hm.id_not_isMember h hS)] at hk
        rw [hk, hnone] at h
        cases h
      · obtain ⟨n, C, -, hC, -⟩ := ho h hS
        rw [id_of_get? h, hk, hnone] at hC
        cases hC
  · next C hC =>
      split at h
      · cases h
      · next hout =>
          refine ⟨h, fun hk => hout ?_⟩
          cases hS : S.isMember
          · exact .inl (by rw [← hk, ShapeId.withoutMember_eq_self (hm.id_not_isMember h hS)])
          · -- a member stored under the removed container is one of its members
            obtain ⟨n, C', -, hC', -, hCm⟩ := ho h hS
            rw [id_of_get? h, hk, hC] at hC'
            obtain rfl := Option.some.inj hC'
            exact .inr (List.mem_map.mpr
              ⟨S, ((hm.wellFormed hC).member?_eq_some_iff.mp hCm).1, id_of_get? h⟩)

variable (hid : id.isMember = false)
include hid

/-- Removing a container leaves every ID outside it alone. -/
theorem get?_removeShape_of_container_ne {k : ShapeId} (hk : k.withoutMember ≠ id) :
    (m.removeShape id).get? k = m.get? k := by
  rw [get?_removeShape]
  split
  · rfl
  · next S hS =>
      have hout : ¬ (k = id ∨ k ∈ S.memberShapes.map (·.id)) := by
        rintro (rfl | hmem)
        · exact hk (ShapeId.withoutMember_eq_self hid)
        · obtain ⟨x, hx, rfl⟩ := List.mem_map.mp hmem
          exact hk (id_of_get? hS ▸ ((hm.wellFormed hS).member_id x hx).2)
      rw [if_neg hout]

theorem Indexed.removeShape (ho : m.Owned) : (m.removeShape id).Indexed where
  sorted := by
    unfold Model.removeShape
    split
    · exact hm.sorted
    · exact List.Pairwise.filter _ hm.sorted
  wellFormed h := hm.wellFormed (get?_removeShape_eq_some hm ho h).1
  registered {k S} h hS x hx := by
    obtain ⟨hold, hk⟩ := get?_removeShape_eq_some hm ho h
    have hx' : x.id.withoutMember ≠ id := by
      rw [((hm.wellFormed hold).member_id x hx).2, id_of_get? hold]
      rwa [ShapeId.withoutMember_eq_self (hm.id_not_isMember hold hS)] at hk
    rw [get?_removeShape_of_container_ne hm hid hx']
    exact hm.registered hold hS x hx

theorem Owned.removeShape (ho : m.Owned) : (m.removeShape id).Owned := by
  intro k M h hM
  obtain ⟨hold, hk⟩ := get?_removeShape_eq_some hm ho h
  obtain ⟨n, C, hn, hC, hCc, hCm⟩ := ho hold hM
  refine ⟨n, C, hn, ?_, hCc, hCm⟩
  rw [get?_removeShape_of_container_ne hm hid (by rwa [ShapeId.withoutMember_withoutMember,
    id_of_get? hold])]
  exact hC

end Remove

/-! ### Adding a model -/

section Add

variable {m o : Model}

/-- What a lookup after adding a model can find. -/
theorem get?_addModel_eq_some (ho : IdSorted o.shapes) {k : ShapeId} {S : Shape}
    (h : (m.addModel o).get? k = some S) :
    o.get? k = some S ∨ (o.get? k = none ∧ m.get? k = some S) := by
  rw [get?_addModel m o ho] at h
  cases hk : o.get? k with
  | some S' =>
      rw [hk, Option.some_or] at h
      exact .inl h
  | none =>
      rw [hk, Option.none_or] at h
      exact .inr ⟨rfl, h⟩

/-- `NoStale`, checked on the shapes stored. -/
theorem noStale_of_forall_mem
    (h : ∀ M ∈ m.shapes, M.isMember = true → (o.get? M.id.withoutMember).isSome = true →
      (o.get? M.id).isSome = true) :
    m.NoStale o := by
  intro k M hk hM hc
  rw [← id_of_get? hk]
  exact h M (List.mem_of_find?_eq_some hk) hM hc

/-- An owned model holds no member under a container ID it does not hold. -/
theorem Owned.get?_eq_none (hm : m.Indexed) (ho : m.Owned) {k : ShapeId}
    (hk : k.isMember = true) (hc : m.get? k.withoutMember = none) : m.get? k = none := by
  cases h : m.get? k with
  | none => rfl
  | some M =>
      have hM : M.isMember = true := by
        rw [← (hm.wellFormed h).id_isMember, id_of_get? h, hk]
      obtain ⟨n, C, -, hC, -⟩ := ho h hM
      rw [id_of_get? h, hc] at hC
      cases hC

theorem Indexed.addModel (hm : m.Indexed) (ho : o.Indexed) (hoo : o.Owned) :
    (m.addModel o).Indexed where
  sorted := hm.sorted.foldl_putShape o.shapes
  wellFormed h := by
    rcases get?_addModel_eq_some ho.sorted h with hk | ⟨-, hk⟩
    · exact ho.wellFormed hk
    · exact hm.wellFormed hk
  registered {k S} h hS x hx := by
    rw [get?_addModel m o ho.sorted]
    rcases get?_addModel_eq_some ho.sorted h with hk | ⟨hk, hold⟩
    · rw [ho.registered hk hS x hx, Option.some_or]
    · -- the added model holds no member of a container it lacks
      have hxm := (hm.wellFormed hold).member_id x hx
      have hxo : o.get? x.id = none :=
        hoo.get?_eq_none ho hxm.1 (by rw [hxm.2, id_of_get? hold, hk])
      rw [hxo, Option.none_or]
      exact hm.registered hold hS x hx

/-- **Adding an owned model keeps the members owned exactly when no member is left
stale**: when every member of the builder whose container the added model holds
is held by the added model too. -/
theorem addModel_owned_iff (hmo : m.Owned) (ho : o.Indexed) (hoo : o.Owned) :
    (m.addModel o).Owned ↔ m.NoStale o := by
  constructor
  · intro hadd k M hk hM hc
    cases hok : o.get? k with
    | some _ => rfl
    | none =>
        -- the member stays, beside a container that does not have it
        obtain ⟨C, hoc⟩ := Option.isSome_iff_exists.mp hc
        have hkept : (m.addModel o).get? k = some M := by
          rw [get?_addModel m o ho.sorted, hok, Option.none_or, hk]
        obtain ⟨n, S, -, hS, hSc, hSm⟩ := hadd hkept hM
        rw [get?_addModel m o ho.sorted, hoc, Option.some_or] at hS
        obtain rfl := Option.some.inj hS
        have hreg := ho.registered hoc hSc M ((ho.wellFormed hoc).member?_eq_some_iff.mp hSm).1
        rw [id_of_get? hk, hok] at hreg
        cases hreg
  · intro hns k M h hM
    rcases get?_addModel_eq_some ho.sorted h with hk | ⟨hk, hold⟩
    · obtain ⟨n, C, hn, hC, hCc, hCm⟩ := hoo hk hM
      exact ⟨n, C, hn, by rw [get?_addModel m o ho.sorted, hC, Option.some_or], hCc, hCm⟩
    · obtain ⟨n, C, hn, hC, hCc, hCm⟩ := hmo hold hM
      -- the added model does not hold the container, or it would hold the member
      have hoc : o.get? M.id.withoutMember = none := by
        cases hoc : o.get? M.id.withoutMember with
        | none => rfl
        | some _ =>
            have hheld := hns hold hM (by rw [hoc]; rfl)
            rw [hk] at hheld
            cases hheld
      exact ⟨n, C, hn, by rw [get?_addModel m o ho.sorted, hoc, Option.none_or, hC], hCc, hCm⟩

end Add

end Model

/-! ## §6. Runs of model-building calls -/

/-- A call on a model being built; an added model is built the same way from the
empty model. -/
inductive ModelOp where
  | addShape (s : Shape)
  | addShapes (ss : List Shape)
  | removeShape (id : ShapeId)
  | putMetadata (key : String) (value : Json.Node)
  | addModel (ops : List ModelOp)

namespace ModelOp

mutual

/-- Makes one call. -/
def apply : ModelOp → Model → Model
  | .addShape s, m => m.insertShape s
  | .addShapes ss, m => m.insertShapes ss
  | .removeShape id, m => m.removeShape id
  | .putMetadata key value, m => m.putMetadata key value
  | .addModel ops, m => m.addModel (run ops {})

/-- Makes calls in order. -/
def run : List ModelOp → Model → Model
  | [], m => m
  | op :: ops, m => run ops (apply op m)

end

mutual

/-- The calls a builder of shapes can make: shapes added are well-formed
containers, IDs removed are container IDs. -/
def Allowed : ModelOp → Prop
  | .addShape s => s.WellFormed ∧ s.isMember = false
  | .addShapes ss => ∀ s ∈ ss, s.WellFormed ∧ s.isMember = false
  | .removeShape id => id.isMember = false
  | .putMetadata _ _ => True
  | .addModel ops => AllAllowed ops

/-- Every call of a sequence is allowed. -/
def AllAllowed : List ModelOp → Prop
  | [] => True
  | op :: ops => op.Allowed ∧ AllAllowed ops

end

mutual

/-- A call on `m` leaves no stale member: a model it adds holds every member of
`m` whose container it holds, and is built without stale members itself. -/
def Clean : ModelOp → Model → Prop
  | .addModel ops, m => AllClean ops {} ∧ m.NoStale (run ops {})
  | _, _ => True

/-- Every call of a sequence, made from `m` on, leaves no stale member. -/
def AllClean : List ModelOp → Model → Prop
  | [], _ => True
  | op :: ops, m => op.Clean m ∧ AllClean ops (op.apply m)

end

mutual

/-- One allowed call that leaves no stale member keeps both invariants. -/
theorem apply_consistent : ∀ (op : ModelOp) {m : Model}, op.Allowed → op.Clean m →
    m.Indexed → m.Owned → (op.apply m).Indexed ∧ (op.apply m).Owned
  | .addShape _, _, ⟨hs, hc⟩, _, hm, ho => ⟨hm.insertShape hs hc, ho.insertShape hs hc hm⟩
  | .addShapes _, _, hss, _, hm, ho => Model.insertShapes_consistent hss hm ho
  | .removeShape _, _, hid, _, hm, ho => ⟨hm.removeShape hid ho, ho.removeShape hm hid⟩
  | .putMetadata _ _, _, _, _, hm, ho => ⟨⟨hm.sorted, hm.wellFormed, hm.registered⟩, ho⟩
  | .addModel ops, _, hall, ⟨hclean, hns⟩, hm, ho =>
      -- the added model is built from empty, so it has both invariants itself
      have hadded := run_consistent_from ops hall hclean Model.indexed_empty Model.owned_empty
      ⟨hm.addModel hadded.1 hadded.2,
        (Model.addModel_owned_iff ho hadded.1 hadded.2).mpr hns⟩

/-- A run of allowed calls that leave no stale member keeps both invariants. -/
theorem run_consistent_from : ∀ (ops : List ModelOp) {m : Model}, AllAllowed ops →
    AllClean ops m → m.Indexed → m.Owned → (run ops m).Indexed ∧ (run ops m).Owned
  | [], _, _, _, hm, ho => ⟨hm, ho⟩
  | op :: ops, _, ⟨hop, hall⟩, ⟨hclean, hrest⟩, hm, ho =>
      have hstep := apply_consistent op hop hclean hm ho
      run_consistent_from ops hall hrest hstep.1 hstep.2

end

/-- **A model built by allowed calls that leave no stale member registers every
member of a stored container under the member's own ID, and holds no member
other than the member of its name of the container stored under its container ID.** -/
theorem run_consistent (ops : List ModelOp) (hall : AllAllowed ops) (hclean : AllClean ops {}) :
    (run ops {}).Indexed ∧ (run ops {}).Owned :=
  run_consistent_from ops hall hclean Model.indexed_empty Model.owned_empty


/-- The structure `ns#Foo` with string members of the given names. -/
def fooWith (names : List String) : Shape :=
  ⟨⟨"ns", "Foo", none⟩,
   .structure (names.map fun n =>
     ⟨⟨"ns", "Foo", some n⟩, ⟨"smithy.api", "String", none⟩, [], SourceLocation.none⟩),
   [], SourceLocation.none⟩

theorem fooWith_wellFormed {names : List String} (h : names.Nodup) : (fooWith names).WellFormed where
  id_isMember := rfl
  simple _ hb := by cases hb
  member_id := by
    simp [fooWith, Shape.memberShapes, Body.members, ShapeId.isMember, ShapeId.withoutMember]
  names_nodup := by
    simpa [fooWith, Shape.memberShapes, Body.members, Shape.memberName, List.map_map,
      Function.comp_def] using h.map fun _ _ hab => Option.some.inj hab
  fixed _ hf := by cases hf

theorem fooWith_allowed {names : List String} (h : names.Nodup) :
    (ModelOp.addShape (fooWith names)).Allowed :=
  ⟨fooWith_wellFormed h, rfl⟩

/-- Put `ns#Foo` with members `a` and `b`, replace it with one with `a` only, then
add a model that holds it with `a` and `b` again. -/
def regrowRun : List ModelOp :=
  [.addShape (fooWith ["a", "b"]), .addShape (fooWith ["a"]),
   .addModel [.addShape (fooWith ["a", "b"])]]

theorem run_consistent_regrow :
    AllAllowed regrowRun ∧ AllClean regrowRun {} ∧
      ((run regrowRun {}).Indexed ∧ (run regrowRun {}).Owned) := by
  have hall : AllAllowed regrowRun :=
    ⟨fooWith_allowed (by decide), fooWith_allowed (by decide),
      ⟨fooWith_allowed (by decide), trivial⟩, trivial⟩
  have hclean : AllClean regrowRun {} :=
    ⟨trivial, trivial, ⟨⟨trivial, trivial⟩, Model.noStale_of_forall_mem (by decide)⟩, trivial⟩
  exact ⟨hall, hclean, run_consistent regrowRun hall hclean⟩

/-- Put `ns#Foo` with members `a` and `b`, then add a model that holds it with `a` only. -/
def staleRun : List ModelOp :=
  [.addShape (fooWith ["a", "b"]), .addModel [.addShape (fooWith ["a"])]]

/-- Adding a model that replaces a container keeps the member the old container had
and the new one lacks: `ns#Foo$b` stays, and `ns#Foo` has no member `b`. -/
theorem addModel_leaves_stale_member : AllAllowed staleRun ∧ ¬ (run staleRun {}).Owned := by
  refine ⟨⟨fooWith_allowed (by decide), ⟨fooWith_allowed (by decide), trivial⟩, trivial⟩,
    fun hown => ?_⟩
  have hb : (run staleRun {}).get? ⟨"ns", "Foo", some "b"⟩ =
      some ⟨⟨"ns", "Foo", some "b"⟩, .member ⟨"smithy.api", "String", none⟩, [],
        SourceLocation.none⟩ := rfl
  obtain ⟨n, S, hn, hS, -, hm⟩ := hown hb rfl
  have hfoo : (run staleRun {}).get? ⟨"ns", "Foo", none⟩ = some (fooWith ["a"]) := rfl
  rw [show ShapeId.withoutMember ⟨"ns", "Foo", some "b"⟩ = ⟨"ns", "Foo", none⟩ from rfl, hfoo] at hS
  obtain rfl := Option.some.inj hS
  obtain rfl := Option.some.inj hn.symm
  have hnone : (fooWith ["a"]).member? "b" = none := by decide
  rw [hnone] at hm
  cases hm

end ModelOp

end ShapeKit
