import Mathlib.Data.Finset.Card
import ShapeKit.Selector.Eval

/-!
# The recursive neighbor step

`~>` collects every shape reachable from a shape by one relationship or more,
following only resolved relationships that run with the grain (neither `BOUND`
nor `MEMBER_CONTAINER`) and are no trait relationship
(`NeighborIndex.Follows`). `Context.closure` walks breadth first, one round
per distance, with one round per shape of the model and one more.

That is enough rounds. Every relationship of the index starts at a shape of
the model, so a round that reaches no new shape of the model reaches only IDs
with no relationship of their own, and the round after it ends the walk. The
walk therefore ends with a set closed under the relationships followed, and it
holds exactly the reachable IDs; the root is among them only when it lies on a
cycle (`Context.mem_closure_iff`).

  * §1 — the relation followed, and where relationships start;
  * §2 — one round of the walk: what it adds, and the invariant it keeps
    (`Context.Walk`);
  * §3 — the walk is sound, and closed once its rounds are done.
-/

namespace ShapeKit

open Relation

/-! ## §1. The relation followed -/

/-- A resolved relationship of the index from `a` to `b` that runs with the
grain and is no trait relationship. -/
def NeighborIndex.Follows (ix : NeighborIndex) (a b : ShapeId) : Prop :=
  ∃ r ∈ ix.relationships, r.shape = a ∧ r.neighbor = b ∧ r.resolved = true ∧
    r.kind ≠ .bound ∧ r.kind ≠ .memberContainer ∧ r.kind ≠ .trait

/-- A relationship of a shape starts at the shape itself, at a shape of the
model bound to it, or at a service or resource that binds it. -/
theorem neighbors_shape {m : Model} {s : Shape} (withTraits : Bool) {r : Relationship}
    (hr : r ∈ neighbors m withTraits s) :
    r.shape = s.id ∨ m.contains r.shape = true ∨ ∃ p ∈ binders m s.id, p.id = r.shape := by
  unfold neighbors at hr
  rcases List.mem_append.mp hr with hr | hr
  · split at hr
    all_goals
      simp only [List.mem_append, List.mem_cons, List.mem_map, List.not_mem_nil, or_false,
        List.mem_filterMap] at hr
    case h_8 =>
      -- a resource: its own edges, the edges back from what it binds, and its binders'
      rcases hr with ((((((((⟨_, -, rfl⟩ | h) | h) | h) | h) | h) | ⟨_, -, rfl⟩) | ⟨_, -, rfl⟩) |
        ⟨_, -, h⟩) | ⟨p, hp, rfl⟩
      · exact .inl rfl
      all_goals first | (split at h <;> grind) | grind
    all_goals grind
  · split at hr
    · obtain ⟨t, -, rfl⟩ := List.mem_map.mp hr
      exact .inl rfl
    · cases hr

theorem mem_dedupRelationships {rs : List Relationship} {r : Relationship}
    (hr : r ∈ dedupRelationships rs) : r ∈ rs := by
  -- what the fold keeps was kept before it or comes from the list
  suffices ∀ acc : List Relationship × List (ShapeId × RelationshipType × ShapeId),
      r ∈ (rs.foldl (fun acc r =>
        if acc.2.contains (r.shape, r.kind, r.neighbor) then acc else (acc.1 ++ [r], acc.2 ++ [(r.shape, r.kind, r.neighbor)]))
        acc).1 → r ∈ acc.1 ∨ r ∈ rs from
    (this ([], []) hr).resolve_left List.not_mem_nil
  clear hr
  induction rs with
  | nil => exact fun _ h => .inl h
  | cons x rest ih =>
    intro acc h
    rw [List.foldl_cons] at h
    rcases ih _ h with h | h
    · split at h
      · exact .inl h
      · rcases List.mem_append.mp h with h | h
        · exact .inl h
        · exact .inr (List.mem_singleton.mp h ▸ List.mem_cons_self)
    · exact .inr (List.mem_cons_of_mem x h)

/-- Every relationship of the index of a model starts at a shape of the model. -/
theorem NeighborIndex.build_shape_mem (m : Model) (withTraits : Bool) {r : Relationship}
    (hr : r ∈ (NeighborIndex.build m withTraits).relationships) : r.shape ∈ m.shapes.map (·.id) := by
  obtain ⟨s, hs, hr⟩ := List.mem_flatMap.mp (mem_dedupRelationships hr)
  rcases neighbors_shape withTraits hr with h | h | ⟨p, hp, h⟩
  · exact h ▸ List.mem_map_of_mem hs
  · obtain ⟨t, ht, hid⟩ := List.any_eq_true.mp h
    exact List.mem_map.mpr ⟨t, ht, beq_iff_eq.mp hid⟩
  · simp only [binders, Model.shapesOfType, List.mem_append, List.mem_filter] at hp
    rcases hp with ⟨⟨hp, -⟩, -⟩ | ⟨⟨hp, -⟩, -⟩ <;> exact h ▸ List.mem_map_of_mem hp

namespace Selector

theorem acceptsKind_nil (k : RelationshipType) :
    acceptsKind [] k = true ↔ k ≠ .bound ∧ k ≠ .memberContainer ∧ k ≠ .trait := by
  cases k <;> simp [acceptsKind, RelationshipType.isInverted]

/-- A relationship of the index from `x` to `y` that a step with `labels` follows. -/
def Context.Links (c : Context) (labels : List String) (x y : ShapeId) : Prop :=
  ∃ r ∈ c.index.relationships, r.shape = x ∧ r.neighbor = y ∧ r.resolved = true ∧
    acceptsKind labels r.kind = true

/-- A forward step follows exactly the resolved relationships its labels accept. -/
theorem Context.mem_step_forward_iff (c : Context) (labels : List String) (x y : ShapeId) :
    y ∈ c.step .forward labels x ↔ c.Links labels x y := by
  simp only [Context.step, NeighborIndex.outgoing, List.mem_filterMap, List.mem_filter, beq_iff_eq]
  constructor
  · rintro ⟨r, ⟨hr, rfl⟩, hy⟩
    split at hy
    · next h =>
      obtain ⟨hk, hres⟩ := Bool.and_eq_true_iff.mp h
      exact ⟨r, hr, rfl, Option.some.inj hy, hres, hk⟩
    · cases hy
  · rintro ⟨r, hr, rfl, rfl, hres, hk⟩
    exact ⟨r, ⟨hr, rfl⟩, by rw [if_pos (Bool.and_eq_true_iff.mpr ⟨hk, hres⟩)]⟩

/-- One forward step without labels follows exactly the relation. -/
theorem Context.mem_step_forward (c : Context) (a b : ShapeId) :
    b ∈ c.step .forward [] a ↔ c.index.Follows a b := by
  rw [c.mem_step_forward_iff]
  simp only [Context.Links, NeighborIndex.Follows, acceptsKind_nil]

/-! ## §2. One round of the walk -/

namespace Context

variable (c : Context)

/-- The IDs one round adds: the neighbors of the frontier not seen yet. -/
def newNeighbors (seen frontier : List ShapeId) : List ShapeId :=
  (frontier.flatMap (c.step .forward [])).eraseDups.filter fun x => !seen.contains x

theorem grow_succ (n : Nat) (seen frontier : List ShapeId) :
    closure.grow c (n + 1) seen frontier =
      if (c.newNeighbors seen frontier).isEmpty then seen
      else closure.grow c n (seen ++ c.newNeighbors seen frontier) (c.newNeighbors seen frontier) := rfl

theorem mem_newNeighbors {seen frontier : List ShapeId} {x : ShapeId} :
    x ∈ c.newNeighbors seen frontier ↔ (∃ y ∈ frontier, c.index.Follows y x) ∧ x ∉ seen := by
  simp [newNeighbors, List.mem_eraseDups, List.mem_flatMap, mem_step_forward]

/-- Every ID reached from `root` (the root itself, or one seen) has all its
neighbors seen. -/
def Closed (root : ShapeId) (seen : List ShapeId) : Prop :=
  ∀ x, (x = root ∨ x ∈ seen) → ∀ y, c.index.Follows x y → y ∈ seen

/-- The invariant of the walk from `root`: an ID reached that is not on the
frontier has all its neighbors seen. -/
def Walk (root : ShapeId) (seen frontier : List ShapeId) : Prop :=
  ∀ x, (x = root ∨ x ∈ seen) → x ∉ frontier → ∀ y, c.index.Follows x y → y ∈ seen

variable {c}

theorem walk_start (root : ShapeId) : c.Walk root [] [root] := by
  rintro x (rfl | hx) hnot
  · exact absurd (List.mem_singleton_self x) hnot
  · cases hx

/-- A round keeps the invariant: the neighbors of the old frontier are now
seen, and the new frontier is what the round added. -/
theorem Walk.round {root : ShapeId} {seen frontier : List ShapeId} (h : c.Walk root seen frontier) :
    c.Walk root (seen ++ c.newNeighbors seen frontier) (c.newNeighbors seen frontier) := by
  intro x hx hnot y hxy
  by_cases hf : x ∈ frontier
  · by_cases hy : y ∈ seen
    · exact List.mem_append_left _ hy
    · exact List.mem_append_right _ ((c.mem_newNeighbors).mpr ⟨⟨x, hf, hxy⟩, hy⟩)
  · have hx' : x = root ∨ x ∈ seen := by
      rcases hx with hx | hx
      · exact .inl hx
      · rcases List.mem_append.mp hx with hx | hx
        · exact .inr hx
        · exact absurd hx hnot
    exact List.mem_append_left _ (h x hx' hf y hxy)

/-- A walk whose frontier has no unseen neighbor is closed. -/
theorem Walk.closed {root : ShapeId} {seen frontier : List ShapeId} (h : c.Walk root seen frontier)
    (hdone : ∀ x ∈ frontier, ∀ y, c.index.Follows x y → y ∈ seen) : c.Closed root seen := by
  intro x hx y hxy
  by_cases hf : x ∈ frontier
  · exact hdone x hf y hxy
  · exact h x hx hf y hxy

/-- The shapes of the model the walk has not seen. -/
def unseen (c : Context) (seen : List ShapeId) : Finset ShapeId :=
  (c.model.shapes.map (·.id)).toFinset \ seen.toFinset

/-- Seeing a new shape of the model leaves fewer unseen. -/
theorem unseen_card_lt {seen next : List ShapeId} {z : ShapeId} (hz : z ∈ next)
    (hzm : z ∈ c.model.shapes.map (·.id)) (hzs : z ∉ seen) :
    (c.unseen (seen ++ next)).card < (c.unseen seen).card := by
  apply Finset.card_lt_card
  rw [Finset.ssubset_iff_of_subset]
  · exact ⟨z, by simp [unseen, hzm, hzs], by simp [unseen, hz]⟩
  · intro x
    simp only [unseen, Finset.mem_sdiff, List.mem_toFinset, List.mem_append, not_or, and_imp]
    exact fun hx hs _ => ⟨hx, hs⟩

/-- Before any round, the unseen shapes are at most the shapes of the model. -/
theorem unseen_nil_card_le (c : Context) : (c.unseen []).card ≤ c.model.size := by
  simp only [unseen, List.toFinset_nil, Finset.sdiff_empty]
  exact (List.toFinset_card_le _).trans (by simp [Model.size])

/-! ## §3. The walk is sound, and closed when its rounds are done -/

/-- Whatever the walk returns was seen before it or is reached from its frontier. -/
theorem grow_sound (n : Nat) (seen frontier : List ShapeId) {x : ShapeId}
    (hx : x ∈ closure.grow c n seen frontier) :
    x ∈ seen ∨ ∃ y ∈ frontier, TransGen c.index.Follows y x := by
  induction n generalizing seen frontier with
  | zero => exact .inl hx
  | succ n ih =>
    rw [grow_succ] at hx
    split at hx
    · exact .inl hx
    · rcases ih _ _ hx with hx | ⟨y, hy, hyx⟩
      · rcases List.mem_append.mp hx with hx | hx
        · exact .inl hx
        · obtain ⟨⟨z, hz, hzx⟩, -⟩ := (c.mem_newNeighbors).mp hx
          exact .inr ⟨z, hz, .single hzx⟩
      · obtain ⟨⟨z, hz, hzy⟩, -⟩ := (c.mem_newNeighbors).mp hy
        exact .inr ⟨z, hz, .head hzy hyx⟩

/-- When relationships start at shapes of the model, the walk ends closed if it
has a round for each unseen shape and one more, or if its frontier has no
neighbor at all: a round that sees no new shape of the model leaves a frontier
without neighbors. -/
theorem grow_closed (hc : ∀ r ∈ c.index.relationships, r.shape ∈ c.model.shapes.map (·.id))
    (root : ShapeId) (n : Nat) (seen frontier : List ShapeId) (hw : c.Walk root seen frontier)
    (hn : (c.unseen seen).card + 1 ≤ n ∨ ∀ x ∈ frontier, ∀ y, ¬ c.index.Follows x y) :
    c.Closed root (closure.grow c n seen frontier) := by
  -- only a shape of the model has neighbors
  have hstart : ∀ x y, c.index.Follows x y → x ∈ c.model.shapes.map (·.id) := by
    rintro x y ⟨r, hr, rfl, -⟩
    exact hc r hr
  induction n generalizing seen frontier with
  | zero =>
    rcases hn with hn | hn
    · omega
    · exact hw.closed fun x hx y hxy => absurd hxy (hn x hx y)
  | succ n ih =>
    rw [grow_succ]
    split
    · next hempty =>
      refine hw.closed fun x hx y hxy => ?_
      by_contra hy
      have hnew := (c.mem_newNeighbors).mpr ⟨⟨x, hx, hxy⟩, hy⟩
      rw [List.isEmpty_iff.mp hempty] at hnew
      cases hnew
    · next hne =>
      obtain ⟨z, hz⟩ := List.exists_mem_of_ne_nil _ fun h => hne (List.isEmpty_iff.mpr h)
      -- the frontier had a neighbor, so the rounds cover the unseen shapes
      have hfuel : (c.unseen seen).card ≤ n := by
        rcases hn with hn | hn
        · omega
        · obtain ⟨⟨y, hy, hyz⟩, -⟩ := (c.mem_newNeighbors).mp hz
          exact absurd hyz (hn y hy z)
      refine ih _ _ hw.round ?_
      by_cases hm : ∃ z ∈ c.newNeighbors seen frontier, z ∈ c.model.shapes.map (·.id)
      · obtain ⟨z, hz, hzm⟩ := hm
        have := unseen_card_lt hz hzm ((c.mem_newNeighbors).mp hz).2
        exact .inl (by omega)
      · exact .inr fun x hx y hxy => hm ⟨x, hx, hstart x y hxy⟩

theorem mem_sortIds {ids : List ShapeId} {x : ShapeId} : x ∈ sortIds ids ↔ x ∈ ids := by
  simp [sortIds, ShapeId.sort, List.mem_eraseDups, List.mem_mergeSort]

/-- Where relationships start at shapes of the model, `closure` returns exactly
the IDs reachable by one relationship followed or more. -/
theorem mem_closure_iff_of_starts (hc : ∀ r ∈ c.index.relationships, r.shape ∈ c.model.shapes.map (·.id))
    (root x : ShapeId) : x ∈ c.closure root ↔ TransGen c.index.Follows root x := by
  unfold closure
  rw [mem_sortIds]
  constructor
  · intro hx
    rcases grow_sound _ _ _ hx with hx | ⟨y, hy, hyx⟩
    · cases hx
    · exact List.mem_singleton.mp hy ▸ hyx
  · -- one round per shape of the model and one more cover every unseen shape
    have hcard := unseen_nil_card_le c
    have hclosed := grow_closed hc root (c.model.size + 1) [] [root] (walk_start root) (.inl (by omega))
    intro h
    induction h with
    | single hxy => exact hclosed _ (.inl rfl) _ hxy
    | tail _ hyz ih => exact hclosed _ (.inr ih) _ hyz

end Context

/-- **The recursive neighbor step `~>`** returns, from every shape ID of every
model, exactly the IDs reachable from it by one resolved relationship or more
that runs with the grain and is no trait relationship; the walk has rounds
enough to reach all of them. -/
theorem Context.mem_closure_iff (m : Model) (withTraits : Bool) (root x : ShapeId) :
    x ∈ (⟨m, NeighborIndex.build m withTraits⟩ : Context).closure root ↔
      TransGen (NeighborIndex.build m withTraits).Follows root x :=
  mem_closure_iff_of_starts (fun _ hr => NeighborIndex.build_shape_mem m withTraits hr) root x

end Selector

end ShapeKit
