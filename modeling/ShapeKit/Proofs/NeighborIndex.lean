import ShapeKit.Proofs.Closure

/-!
# The neighbor index of a model

`NeighborIndex.build` lists every relationship of every shape once: the fold
in `dedupRelationships` keeps the first relationship with each start, kind
and neighbor. Both directions of a neighbor step read that one list, the
forward step by start and the reverse step by resolved neighbor.

  * §1 — the fold keeps one relationship per key, so the relationships out
    of a shape differ in kind or neighbor (`NeighborIndex.outgoing_nodup`),
    and keeping the relationships of some kinds commutes with it;
  * §2 — trait relationships come last in each shape's list and are the only
    ones of their kind, so the index with trait relationships, less those,
    is the index without them (`NeighborIndex.withoutTraits_build`);
  * §3 — a forward step from `x` reaches `y` exactly when the reverse step
    from `y` reaches `x` (`Selector.Context.neighbor_forward_iff_reverse`).
-/

namespace ShapeKit

/-! ## §1. One relationship per key -/

namespace Relationship

/-- The start, kind and neighbor of a relationship: what the index keeps once. -/
def key (r : Relationship) : ShapeId × RelationshipType × ShapeId := (r.shape, r.kind, r.neighbor)

/-- One step of `dedupRelationships`: keep the relationship unless its key was kept. -/
def dedupStep (acc : List Relationship × List (ShapeId × RelationshipType × ShapeId))
    (r : Relationship) : List Relationship × List (ShapeId × RelationshipType × ShapeId) :=
  if acc.2.contains r.key then acc else (acc.1 ++ [r], acc.2 ++ [r.key])

end Relationship

open Relationship

theorem dedupRelationships_eq (rs : List Relationship) :
    dedupRelationships rs = (rs.foldl dedupStep ([], [])).1 := rfl

/-- The fold's second list holds the keys of its first, each once. -/
def KeysKept (acc : List Relationship × List (ShapeId × RelationshipType × ShapeId)) : Prop :=
  acc.2 = acc.1.map key ∧ acc.2.Nodup

theorem KeysKept.step {acc} (h : KeysKept acc) (r : Relationship) :
    KeysKept (dedupStep acc r) := by
  obtain ⟨hkeys, hnd⟩ := h
  unfold Relationship.dedupStep
  split
  · exact ⟨hkeys, hnd⟩
  · next hnew =>
    refine ⟨by simp [hkeys], List.nodup_append.mpr ⟨hnd, List.nodup_singleton _, ?_⟩⟩
    rintro a ha b hb rfl
    rw [List.mem_singleton.mp hb] at ha
    exact hnew (List.contains_iff_mem.mpr ha)

theorem KeysKept.foldl {acc} (h : KeysKept acc) (rs : List Relationship) :
    KeysKept (rs.foldl dedupStep acc) := by
  induction rs generalizing acc with
  | nil => exact h
  | cons r rs ih => exact ih (h.step r)

/-- The index lists each start, kind and neighbor once. -/
theorem keys_nodup_dedupRelationships (rs : List Relationship) :
    ((dedupRelationships rs).map key).Nodup := by
  obtain ⟨hkeys, hnd⟩ := KeysKept.foldl (show KeysKept ([], []) from ⟨rfl, List.nodup_nil⟩) rs
  rw [dedupRelationships_eq, ← hkeys]
  exact hnd

/-- The relationships out of a shape differ in kind or neighbor: they all
start at the shape, and the index keeps each start, kind and neighbor once. -/
theorem NeighborIndex.outgoing_nodup (m : Model) {withTraits : Bool} (x : ShapeId) :
    (((NeighborIndex.build m withTraits).outgoing x).map fun r => (r.kind, r.neighbor)).Nodup := by
  set out := (NeighborIndex.build m withTraits).outgoing x
  have hkeys : (out.map key).Nodup :=
    (keys_nodup_dedupRelationships _).sublist ((List.filter_sublist).map key)
  have hstart : out.map key = (out.map fun r => (r.kind, r.neighbor)).map (Prod.mk x) := by
    rw [List.map_map]
    refine List.map_congr_left fun r hr => ?_
    have : r.shape = x := by simpa [out, NeighborIndex.outgoing] using (List.mem_filter.mp hr).2
    simp [key, this]
  exact List.Nodup.of_map _ (hstart ▸ hkeys)

section FilterKinds

variable (p : RelationshipType → Bool)

/-- The part of the fold's state whose kinds pass `p`. -/
def keepKinds (acc : List Relationship × List (ShapeId × RelationshipType × ShapeId)) :
    List Relationship × List (ShapeId × RelationshipType × ShapeId) :=
  (acc.1.filter fun r => p r.kind, acc.2.filter fun k => p k.2.1)

theorem keepKinds_dedupStep_of_pos (acc) {r : Relationship} (hr : p r.kind = true) :
    keepKinds p (dedupStep acc r) = dedupStep (keepKinds p acc) r := by
  -- the key of `r` passes `p`, so it is kept before the step iff its part is
  have hmem : (keepKinds p acc).2.contains r.key = acc.2.contains r.key := by
    simp [keepKinds, key, hr]
  unfold Relationship.dedupStep
  rw [hmem]
  split
  · rfl
  · simp [keepKinds, key, hr]

theorem keepKinds_dedupStep_of_neg (acc) {r : Relationship} (hr : p r.kind = false) :
    keepKinds p (dedupStep acc r) = keepKinds p acc := by
  unfold Relationship.dedupStep
  split
  · rfl
  · simp [keepKinds, key, hr]

theorem keepKinds_foldl (rs : List Relationship) (acc) :
    keepKinds p (rs.foldl dedupStep acc) =
      (rs.filter fun r => p r.kind).foldl dedupStep (keepKinds p acc) := by
  induction rs generalizing acc with
  | nil => rfl
  | cons r rs ih =>
    rw [List.foldl_cons, ih, List.filter_cons]
    cases hr : p r.kind
    · rw [keepKinds_dedupStep_of_neg p acc hr, if_neg (by simp)]
    · rw [keepKinds_dedupStep_of_pos p acc hr, if_pos rfl, List.foldl_cons]

/-- Keeping the relationships of some kinds commutes with keeping one per key. -/
theorem filter_dedupRelationships (rs : List Relationship) :
    (dedupRelationships rs).filter (fun r => p r.kind) = dedupRelationships (rs.filter fun r => p r.kind) :=
  congrArg Prod.fst (keepKinds_foldl p rs ([], []))

end FilterKinds

/-! ## §2. Trait relationships -/

section TraitRelationships

variable (m : Model) (s : Shape)

/-- With trait relationships on, a shape lists its trait relationships after
the others. -/
theorem neighbors_withTraits :
    neighbors m true s = neighbors m false s ++ s.traits.map fun t =>
      { shape := s.id, kind := .trait, neighbor := t.id, resolved := (m.get? t.id).isSome,
        memberTarget := (m.get? t.id).bind Shape.target } := by
  simp [neighbors]

/-- Without trait relationships on, no relationship of a shape is one. -/
theorem kind_ne_trait_of_mem_neighbors {r : Relationship} (hr : r ∈ neighbors m false s) :
    r.kind ≠ .trait := by
  unfold neighbors at hr
  simp only [Bool.false_eq_true, if_false, List.append_nil] at hr
  split at hr
  all_goals
    simp only [List.mem_append, List.mem_cons, List.mem_map, List.not_mem_nil, or_false,
      List.mem_filterMap] at hr
  all_goals grind

theorem filter_neighbors_withTraits :
    (neighbors m true s).filter (fun r => r.kind != .trait) = neighbors m false s := by
  rw [neighbors_withTraits, List.filter_append, List.filter_eq_self.mpr, List.filter_eq_nil_iff.mpr,
    List.append_nil]
  · simp
  · exact fun r hr => by simpa using kind_ne_trait_of_mem_neighbors m s hr

end TraitRelationships

/-- The index less its trait relationships. -/
def NeighborIndex.withoutTraits (ix : NeighborIndex) : NeighborIndex :=
  ⟨ix.relationships.filter fun r => r.kind != .trait⟩

/-- The index with trait relationships, less those, is the index without
them, in the same order. -/
theorem NeighborIndex.withoutTraits_build (m : Model) :
    (NeighborIndex.build m true).withoutTraits = NeighborIndex.build m false := by
  simp only [NeighborIndex.build, NeighborIndex.withoutTraits, NeighborIndex.mk.injEq]
  rw [filter_dedupRelationships (· != .trait), List.filter_flatMap]
  simp only [filter_neighbors_withTraits]

/-! ## §3. Forward and reverse steps -/

namespace Selector.Context

variable (c : Context)

theorem mem_step_reverse_iff (labels : List String) (x y : ShapeId) :
    x ∈ c.step .reverse labels y ↔ c.Links labels x y := by
  simp only [Context.step, NeighborIndex.incoming, List.mem_filterMap, List.mem_filter,
    Bool.and_eq_true, beq_iff_eq]
  constructor
  · rintro ⟨r, ⟨hr, hres, rfl⟩, hx⟩
    split at hx
    · next hk => exact ⟨r, hr, Option.some.inj hx, rfl, hres, hk⟩
    · cases hx
  · rintro ⟨r, hr, rfl, rfl, hres, hk⟩
    exact ⟨r, ⟨hr, hres, rfl⟩, by rw [if_pos hk]⟩

theorem mem_apply_neighbor (dir : Direction) (labels : List String) (input : List ShapeId)
    (x : ShapeId) : x ∈ c.apply (.neighbor dir labels) input ↔ ∃ y ∈ input, x ∈ c.step dir labels y := by
  simp [Context.apply, Context.mem_sortIds]

/-- A forward step from `x` yields `y` exactly when the reverse step with the
same labels from `y` yields `x`: both read the same relationships. -/
theorem forward_iff_reverse (labels : List String) (x y : ShapeId) :
    y ∈ c.apply (.neighbor .forward labels) [x] ↔ x ∈ c.apply (.neighbor .reverse labels) [y] := by
  simp only [mem_apply_neighbor, List.mem_singleton, exists_eq_left, mem_step_forward_iff,
    mem_step_reverse_iff]

/-- **Forward and reverse neighbor steps are dual**: in the index of every
model, the step `-[labels]->` (`>` without labels) from `x` yields `y` exactly
when the step `<-[labels]-` (`<`) from `y` yields `x`; and the relationships
out of a shape never repeat a kind and neighbor. -/
theorem neighbor_forward_iff_reverse (m : Model) (withTraits : Bool) (labels : List String)
    (x y : ShapeId) :
    (y ∈ (⟨m, NeighborIndex.build m withTraits⟩ : Context).apply (.neighbor .forward labels) [x] ↔
      x ∈ (⟨m, NeighborIndex.build m withTraits⟩ : Context).apply (.neighbor .reverse labels) [y]) ∧
    (((NeighborIndex.build m withTraits).outgoing x).map fun r => (r.kind, r.neighbor)).Nodup :=
  ⟨forward_iff_reverse _ labels x y, NeighborIndex.outgoing_nodup _ x⟩

end Selector.Context

end ShapeKit
