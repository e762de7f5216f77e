import Mathlib.Data.Finset.Card
import Mathlib.Logic.Relation
import ShapeKit.Validation.Builtin
import ShapeKit.Proofs.Keyed

/-!
# Unsatisfiable recursion through required members

`ShapeRecursion` builds a graph with an edge `S → T` for every required member
of a structure `S` that targets `T`, and reports every strongly connected
component of it that holds a cycle: two shapes or more, or one with an edge to
itself. Each is one `ERROR` event that names the component's shapes in ID
order and points at the first of them.

The graph is built edge by edge (`ShapeGraph.addEdge`), which keeps its node
list free of repeats and holding both ends of every edge
(`ShapeGraph.Consistent`). Reachability is a breadth-first walk with one round
per node, enough to close it (`ShapeGraph.mem_reachable_iff`); the components
are read off reachability both ways, sorted, and listed once
(`ShapeGraph.mem_cycles_iff_isComponent`).

Main statement: `checkRecursion_reports_required_cycles`. It asks that a
structure list each member once, as every built shape does
(`Shape.WellFormed.ids_nodup`): the check looks a member's traits up by its ID.

  * §1 — lists, and the order of IDs;
  * §2 — strongly connected components of a relation;
  * §3 — graphs built edge by edge;
  * §4 — reachability;
  * §5 — the components with a cycle;
  * §6 — the edges of required members;
  * §7 — the recursion check.
-/

namespace ShapeKit

open Relation

/-! ## §1. Lists, and the order of IDs -/

/-- Removing repeats leaves each element once. -/
theorem nodup_eraseDups {α : Type} [BEq α] [LawfulBEq α] (l : List α) : l.eraseDups.Nodup := by
  match l with
  | [] => simp
  | a :: as =>
    rw [List.eraseDups_cons]
    refine List.nodup_cons.mpr ⟨?_, nodup_eraseDups _⟩
    simp [List.mem_eraseDups]
termination_by l.length
decreasing_by exact Nat.lt_succ_of_le (List.length_filter_le _ _)

/-- Where `f` gives a value for every item, `filterMap f` gives one for each, in order. -/
theorem forall₂_filterMap_of_isSome {α β : Type} {f : α → Option β} :
    ∀ {l : List α}, (∀ x ∈ l, (f x).isSome) → List.Forall₂ (fun x y => f x = some y) l (l.filterMap f)
  | [], _ => .nil
  | x :: l, h => by
    obtain ⟨y, hy⟩ := Option.isSome_iff_exists.mp (h x List.mem_cons_self)
    rw [List.filterMap_cons, hy]
    exact .cons hy (forall₂_filterMap_of_isSome fun z hz => h z (List.mem_cons_of_mem x hz))

theorem two_le_length_of_ne {C : List ShapeId} {a b : ShapeId} (ha : a ∈ C) (hb : b ∈ C)
    (hab : a ≠ b) : 2 ≤ C.length := by
  rcases C with _ | ⟨x, _ | ⟨y, t⟩⟩
  · cases ha
  · simp only [List.mem_singleton] at ha hb
    exact absurd (ha.trans hb.symm) hab
  · simp

theorem ShapeId.le_eq_isLE (a b : ShapeId) : ShapeId.le a b = (ShapeId.compare a b).isLE := by
  unfold ShapeId.le
  cases ShapeId.compare a b <;> rfl

/-- Sorting IDs listed once orders them strictly. -/
theorem ShapeId.sorted_sort {ids : List ShapeId} (h : ids.Nodup) :
    Keyed.Sorted ShapeId.compare id (ShapeId.sort ids) := by
  have hle : (ShapeId.sort ids).Pairwise fun a b => ShapeId.le a b = true := by
    refine List.pairwise_mergeSort (fun a b c hab hbc => ?_) (fun a b => ?_) ids
    · rw [ShapeId.le_eq_isLE] at *
      exact Std.TransCmp.isLE_trans hab hbc
    · simp only [ShapeId.le_eq_isLE, Bool.or_eq_true, Ordering.isLE_iff_ne_gt]
      by_cases hgt : ShapeId.compare a b = .gt
      · exact .inr (by rw [Std.OrientedCmp.lt_of_gt hgt]; exact nofun)
      · exact .inl hgt
  have hnd : (ShapeId.sort ids).Nodup := (List.mergeSort_perm ids _).nodup_iff.mpr h
  refine (hle.and (List.nodup_iff_pairwise_ne.mp hnd)).imp fun ⟨hab, hne⟩ => ?_
  -- in order and distinct: strictly in order
  rw [ShapeId.le_eq_isLE, Ordering.isLE_iff_eq_lt_or_eq_eq] at hab
  rcases hab with hab | hab
  · exact hab
  · exact absurd (ShapeId.compare_eq_iff_eq.mp hab) hne

/-! ## §2. Strongly connected components -/

section Components

variable {r : ShapeId → ShapeId → Prop}

/-- `C` lists, in ID order, the strongly connected component of one of its IDs:
the IDs it reaches and is reached from. -/
def IsComponent (r : ShapeId → ShapeId → Prop) (C : List ShapeId) : Prop :=
  Keyed.Sorted ShapeId.compare id C ∧ ∃ v ∈ C, ∀ u, u ∈ C ↔ ReflTransGen r v u ∧ ReflTransGen r u v

/-- A component lies on a cycle exactly when it has two members or more, or a
member with an edge to itself. -/
theorem transGen_self_iff {C : List ShapeId} (hnd : C.Nodup) {v : ShapeId}
    (hC : ∀ u, u ∈ C ↔ ReflTransGen r v u ∧ ReflTransGen r u v) :
    TransGen r v v ↔ 2 ≤ C.length ∨ ∃ w ∈ C, r w w := by
  have hv : v ∈ C := (hC v).mpr ⟨.refl, .refl⟩
  constructor
  · intro h
    -- the first step of the cycle stays at `v`, or leads to a second member
    obtain ⟨w, hvw, hwv⟩ := TransGen.head'_iff.mp h
    by_cases hw : w = v
    · exact .inr ⟨v, hv, hw ▸ hvw⟩
    · exact .inl (two_le_length_of_ne ((hC w).mpr ⟨.single hvw, hwv⟩) hv hw)
  · rintro (hlen | ⟨w, hw, hww⟩)
    · -- of two members listed once, one is not `v` and lies on a cycle through it
      obtain ⟨w, hw, hne⟩ : ∃ w ∈ C, w ≠ v := by
        rcases C with _ | ⟨x, _ | ⟨y, t⟩⟩
        · simp at hlen
        · simp at hlen
        · have hxy : x ≠ y := fun h => (List.nodup_cons.mp hnd).1 (h ▸ List.mem_cons_self ..)
          by_cases hx : x = v
          · exact ⟨y, by simp, fun h => hxy (hx.trans h.symm)⟩
          · exact ⟨x, List.mem_cons_self .., hx⟩
      obtain ⟨hvw, hwv⟩ := (hC w).mp hw
      exact ((reflTransGen_iff_eq_or_transGen.mp hvw).resolve_left hne).trans_left hwv
    · obtain ⟨hvw, hwv⟩ := (hC w).mp hw
      exact TransGen.trans_right hvw ((TransGen.single hww).trans_left hwv)

/-- A member of a component has the same component. -/
theorem component_congr {v S : ShapeId} (hS : ReflTransGen r v S ∧ ReflTransGen r S v) (u : ShapeId) :
    (ReflTransGen r v u ∧ ReflTransGen r u v) ↔ (ReflTransGen r S u ∧ ReflTransGen r u S) :=
  ⟨fun ⟨hvu, huv⟩ => ⟨hS.2.trans hvu, huv.trans hS.1⟩,
    fun ⟨hSu, huS⟩ => ⟨hS.1.trans hSu, huS.trans hS.2⟩⟩

/-- Two components that share an ID are the same list. -/
theorem IsComponent.eq_of_mem {C₁ C₂ : List ShapeId} (h₁ : IsComponent r C₁) (h₂ : IsComponent r C₂)
    {S : ShapeId} (hS₁ : S ∈ C₁) (hS₂ : S ∈ C₂) : C₁ = C₂ := by
  obtain ⟨hs₁, v₁, -, hC₁⟩ := h₁
  obtain ⟨hs₂, v₂, -, hC₂⟩ := h₂
  refine Keyed.Sorted.eq_of_mem_iff hs₁ hs₂ fun u => ?_
  rw [hC₁, hC₂, component_congr ((hC₁ S).mp hS₁), component_congr ((hC₂ S).mp hS₂)]

theorem IsComponent.nodup {C : List ShapeId} (h : IsComponent r C) : C.Nodup :=
  List.Nodup.of_map id h.1.nodup_keys

end Components

/-! ## §3. Graphs built edge by edge -/

namespace ShapeGraph

/-- An edge of the graph from `a` to `b`, whatever its label. -/
def Edge (g : ShapeGraph) (a b : ShapeId) : Prop := ∃ l, (a, b, l) ∈ g.edges

/-- What every graph built by adding edges satisfies: its nodes are listed once,
and both ends of every edge are nodes. -/
structure Consistent (g : ShapeGraph) : Prop where
  nodup : g.nodes.Nodup
  spans : ∀ e ∈ g.edges, e.1 ∈ g.nodes ∧ e.2.1 ∈ g.nodes

theorem consistent_empty : (({} : ShapeGraph)).Consistent :=
  ⟨List.nodup_nil, fun _ h => nomatch h⟩

@[simp] theorem edges_addEdge (g : ShapeGraph) (a b l : ShapeId) :
    (g.addEdge a b l).edges = g.edges ++ [(a, b, l)] := rfl

/-- A node is added at the end unless it is there. -/
theorem mem_insertNode {l : List ShapeId} {x y : ShapeId} :
    x ∈ (if l.contains y then l else l ++ [y]) ↔ x ∈ l ∨ x = y := by
  split_ifs with hy
  · constructor
    · exact .inl
    · rintro (hx | rfl)
      · exact hx
      · exact List.contains_iff_mem.mp hy
  · simp

theorem nodup_insertNode {l : List ShapeId} {y : ShapeId} (h : l.Nodup) :
    (if l.contains y then l else l ++ [y]).Nodup := by
  split_ifs with hy
  · exact h
  · simp only [List.contains_iff_mem] at hy
    simpa [List.nodup_append, h] using fun x hx (heq : x = y) => hy (heq ▸ hx)

theorem mem_nodes_addEdge {g : ShapeGraph} {a b l x : ShapeId} :
    x ∈ (g.addEdge a b l).nodes ↔ x ∈ g.nodes ∨ x = a ∨ x = b := by
  simp only [addEdge, mem_insertNode, or_assoc]

theorem edge_addEdge_iff {g : ShapeGraph} {a b l x y : ShapeId} :
    (g.addEdge a b l).Edge x y ↔ g.Edge x y ∨ (x = a ∧ y = b) := by
  simp only [Edge, edges_addEdge, List.mem_append, List.mem_singleton, Prod.mk.injEq]
  constructor
  · rintro ⟨l', h | ⟨rfl, rfl, rfl⟩⟩
    · exact .inl ⟨l', h⟩
    · exact .inr ⟨rfl, rfl⟩
  · rintro (⟨l', h⟩ | ⟨rfl, rfl⟩)
    · exact ⟨l', .inl h⟩
    · exact ⟨l, .inr ⟨rfl, rfl, rfl⟩⟩

theorem Consistent.addEdge {g : ShapeGraph} (hg : g.Consistent) (a b l : ShapeId) :
    (g.addEdge a b l).Consistent := by
  constructor
  · exact nodup_insertNode (nodup_insertNode hg.nodup)
  · intro e he
    simp only [edges_addEdge, List.mem_append, List.mem_singleton] at he
    rcases he with he | rfl
    · obtain ⟨h1, h2⟩ := hg.spans e he
      exact ⟨mem_nodes_addEdge.2 (.inl h1), mem_nodes_addEdge.2 (.inl h2)⟩
    · exact ⟨mem_nodes_addEdge.2 (.inr (.inl rfl)), mem_nodes_addEdge.2 (.inr (.inr rfl))⟩

/-- Both ends of a path of edges are nodes. -/
theorem Consistent.source_mem {g : ShapeGraph} (hg : g.Consistent) {a b : ShapeId} (h : TransGen g.Edge a b) :
    a ∈ g.nodes := by
  obtain ⟨c, ⟨l, hac⟩, -⟩ := TransGen.head'_iff.mp h
  exact (hg.spans _ hac).1

theorem Consistent.target_mem {g : ShapeGraph} (hg : g.Consistent) {a b : ShapeId} (h : TransGen g.Edge a b) :
    b ∈ g.nodes := by
  obtain ⟨c, -, l, hcb⟩ := TransGen.tail'_iff.mp h
  exact (hg.spans _ hcb).2

/-! ### Folds that add edges -/

section Fold

variable {α : Type} {F : ShapeGraph → α → ShapeGraph}

/-- A fold whose every step keeps the graph consistent ends consistent. -/
theorem Consistent.foldl (hF : ∀ g x, g.Consistent → (F g x).Consistent) :
    ∀ (xs : List α) {g : ShapeGraph}, g.Consistent → (xs.foldl F g).Consistent
  | [], _, hg => hg
  | x :: xs, _, hg => Consistent.foldl hF xs (hF _ x hg)

/-- A fold whose step adds the edges `P` names for its item ends with the edges
it started from and those `P` names for some item. -/
theorem edge_foldl_iff {P : α → ShapeId → ShapeId → Prop}
    (hF : ∀ g x a b, (F g x).Edge a b ↔ g.Edge a b ∨ P x a b) {a b : ShapeId} :
    ∀ (xs : List α) (g : ShapeGraph), (xs.foldl F g).Edge a b ↔ g.Edge a b ∨ ∃ x ∈ xs, P x a b
  | [], g => by simp
  | x :: xs, g => by
    rw [List.foldl_cons, edge_foldl_iff hF xs, hF]
    simp only [List.mem_cons, exists_eq_or_imp, or_assoc]

end Fold

theorem consistent_ofModel (m : Model) (keep : Shape → Relationship → Bool) :
    (ofModel m keep).Consistent := by
  unfold ofModel
  refine Consistent.foldl (fun g s hg => Consistent.foldl (fun g r hg => ?_) _ hg) _ consistent_empty
  split
  · exact hg
  · split <;> exact hg.addEdge _ _ _

/-- The edges of a model's graph: from each non-member shape, along each of its
relationships `keep` chooses, to the member's target or else to the neighbor. -/
theorem edge_ofModel_iff {m : Model} {keep : Shape → Relationship → Bool} {a b : ShapeId} :
    (ofModel m keep).Edge a b ↔ ∃ s ∈ m.shapes, s.isMember = false ∧ ∃ r ∈ neighbors m false s,
      r.shape = s.id ∧ keep s r = true ∧ a = s.id ∧ r.memberTarget.getD r.neighbor = b := by
  unfold ofModel
  rw [edge_foldl_iff (P := fun s a b => ∃ r ∈ neighbors m false s,
    r.shape = s.id ∧ keep s r = true ∧ a = s.id ∧ r.memberTarget.getD r.neighbor = b)]
  · simp [Edge, and_assoc]
  · intro g s a b
    rw [edge_foldl_iff (P := fun r a b =>
      r.shape = s.id ∧ keep s r = true ∧ a = s.id ∧ r.memberTarget.getD r.neighbor = b)]
    intro g r a b
    split
    · next hskip =>
      -- a relationship of another shape, or one `keep` refuses, adds nothing
      simp only [Bool.or_eq_true, bne_iff_ne, ne_eq, Bool.not_eq_true'] at hskip
      constructor
      · exact .inl
      · rintro (h | ⟨hr, hk, -⟩)
        · exact h
        · rcases hskip with h | h
          · exact absurd hr h
          · rw [hk] at h
            cases h
    · next hkept =>
      simp only [Bool.or_eq_true, bne_iff_ne, ne_eq, Bool.not_eq_true', not_or, not_not,
        Bool.not_eq_false] at hkept
      split <;> next ht => simp [edge_addEdge_iff, ht, hkept, eq_comm]

end ShapeGraph

/-! ## §4. Reachability -/

namespace ShapeGraph

variable {g : ShapeGraph}

theorem mem_successors {a b : ShapeId} : b ∈ g.successors a ↔ g.Edge a b := by
  simp [successors, Edge]

/-- The IDs one round of the walk adds: the successors of the frontier not seen yet. -/
def newSuccessors (g : ShapeGraph) (seen frontier : List ShapeId) : List ShapeId :=
  (frontier.flatMap g.successors).eraseDups.filter fun x => !seen.contains x

theorem reachFrom_succ (n : Nat) (seen frontier : List ShapeId) :
    g.reachFrom (n + 1) seen frontier =
      if (g.newSuccessors seen frontier).isEmpty then seen
      else g.reachFrom n (seen ++ g.newSuccessors seen frontier) (g.newSuccessors seen frontier) :=
  rfl

theorem mem_newSuccessors {seen frontier : List ShapeId} {x : ShapeId} :
    x ∈ g.newSuccessors seen frontier ↔ (∃ y ∈ frontier, g.Edge y x) ∧ x ∉ seen := by
  simp [newSuccessors, List.mem_eraseDups, mem_successors]

/-- Every ID reached from `root`, the root itself or one seen, has all its
successors seen. -/
def Closed (g : ShapeGraph) (root : ShapeId) (seen : List ShapeId) : Prop :=
  ∀ x, (x = root ∨ x ∈ seen) → ∀ y, g.Edge x y → y ∈ seen

/-- The invariant of the walk from `root`: an ID reached that is off the
frontier has all its successors seen. -/
def Walk (g : ShapeGraph) (root : ShapeId) (seen frontier : List ShapeId) : Prop :=
  ∀ x, (x = root ∨ x ∈ seen) → x ∉ frontier → ∀ y, g.Edge x y → y ∈ seen

/-- The walk starts from the root's successors, seen and on the frontier. -/
theorem walk_start (root : ShapeId) :
    g.Walk root (g.successors root).eraseDups (g.successors root).eraseDups := by
  rintro x (rfl | hx) hnot y hxy
  · exact List.mem_eraseDups.mpr (mem_successors.mpr hxy)
  · exact absurd hx hnot

/-- A round keeps the invariant: the successors of the old frontier are now
seen, and the new frontier is what the round added. -/
theorem Walk.round {root : ShapeId} {seen frontier : List ShapeId} (h : g.Walk root seen frontier) :
    g.Walk root (seen ++ g.newSuccessors seen frontier) (g.newSuccessors seen frontier) := by
  intro x hx hnot y hxy
  by_cases hf : x ∈ frontier
  · by_cases hy : y ∈ seen
    · exact List.mem_append_left _ hy
    · exact List.mem_append_right _ (g.mem_newSuccessors.mpr ⟨⟨x, hf, hxy⟩, hy⟩)
  · have hx' : x = root ∨ x ∈ seen := by
      rcases hx with hx | hx
      · exact .inl hx
      · rcases List.mem_append.mp hx with hx | hx
        · exact .inr hx
        · exact absurd hx hnot
    exact List.mem_append_left _ (h x hx' hf y hxy)

/-- A walk whose frontier has no unseen successor is closed. -/
theorem Walk.closed {root : ShapeId} {seen frontier : List ShapeId} (h : g.Walk root seen frontier)
    (hdone : ∀ x ∈ frontier, ∀ y, g.Edge x y → y ∈ seen) : g.Closed root seen := by
  intro x hx y hxy
  by_cases hf : x ∈ frontier
  · exact hdone x hf y hxy
  · exact h x hx hf y hxy

/-- The nodes the walk has not seen. -/
def unseen (g : ShapeGraph) (seen : List ShapeId) : Finset ShapeId :=
  g.nodes.toFinset \ seen.toFinset

/-- Seeing a new node leaves fewer unseen. -/
theorem unseen_card_lt {seen next : List ShapeId} {z : ShapeId} (hz : z ∈ next)
    (hzn : z ∈ g.nodes) (hzs : z ∉ seen) :
    (g.unseen (seen ++ next)).card < (g.unseen seen).card := by
  apply Finset.card_lt_card
  rw [Finset.ssubset_iff_of_subset]
  · exact ⟨z, by simp [unseen, hzn, hzs], by simp [unseen, hz]⟩
  · intro x
    simp only [unseen, Finset.mem_sdiff, List.mem_toFinset, List.mem_append, not_or, and_imp]
    exact fun hx hs _ => ⟨hx, hs⟩

/-- Whatever the walk returns was seen before it or is reached from its frontier. -/
theorem reachFrom_sound (n : Nat) (seen frontier : List ShapeId) {x : ShapeId}
    (hx : x ∈ g.reachFrom n seen frontier) :
    x ∈ seen ∨ ∃ y ∈ frontier, TransGen g.Edge y x := by
  induction n generalizing seen frontier with
  | zero => exact .inl hx
  | succ n ih =>
    rw [reachFrom_succ] at hx
    split at hx
    · exact .inl hx
    · rcases ih _ _ hx with hx | ⟨y, hy, hyx⟩
      · rcases List.mem_append.mp hx with hx | hx
        · exact .inl hx
        · obtain ⟨⟨z, hz, hzx⟩, -⟩ := g.mem_newSuccessors.mp hx
          exact .inr ⟨z, hz, .single hzx⟩
      · obtain ⟨⟨z, hz, hzy⟩, -⟩ := g.mem_newSuccessors.mp hy
        exact .inr ⟨z, hz, .head hzy hyx⟩

/-- In a consistent graph the walk ends closed when it has a round for each
unseen node and one more, or when its frontier is empty: every round that goes
on sees a new node. -/
theorem reachFrom_closed (hg : g.Consistent) (root : ShapeId) (n : Nat) (seen frontier : List ShapeId)
    (hw : g.Walk root seen frontier) (hn : (g.unseen seen).card + 1 ≤ n ∨ frontier = []) :
    g.Closed root (g.reachFrom n seen frontier) := by
  induction n generalizing seen frontier with
  | zero =>
    rcases hn with hn | rfl
    · omega
    · exact hw.closed fun x hx => absurd hx List.not_mem_nil
  | succ n ih =>
    rw [reachFrom_succ]
    split
    · next hempty =>
      refine hw.closed fun x hx y hxy => ?_
      by_contra hy
      have hnew := g.mem_newSuccessors.mpr ⟨⟨x, hx, hxy⟩, hy⟩
      rw [List.isEmpty_iff.mp hempty] at hnew
      cases hnew
    · next hne =>
      obtain ⟨z, hz⟩ := List.exists_mem_of_ne_nil _ fun h => hne (List.isEmpty_iff.mpr h)
      obtain ⟨⟨y, hy, l, hyz⟩, hzs⟩ := g.mem_newSuccessors.mp hz
      -- the new successor is a node, so fewer nodes are left unseen than rounds
      have hlt := unseen_card_lt hz (hg.spans _ hyz).2 hzs
      refine ih _ _ hw.round (.inl ?_)
      rcases hn with hn | rfl
      · omega
      · cases hy

/-- In a consistent graph, the nodes reachable from a node by one edge or more
are exactly those its walk collects. -/
theorem mem_reachable_iff (hg : g.Consistent) {v u : ShapeId} :
    u ∈ g.reachable v ↔ TransGen g.Edge v u := by
  unfold reachable
  dsimp only
  constructor
  · intro hu
    rcases reachFrom_sound _ _ _ hu with hu | ⟨y, hy, hyu⟩
    · exact .single (mem_successors.mp (List.mem_eraseDups.mp hu))
    · exact .head (mem_successors.mp (List.mem_eraseDups.mp hy)) hyu
  · -- one round per node: a first successor is a node, so one fewer is unseen
    have hfuel : (g.unseen (g.successors v).eraseDups).card + 1 ≤ g.nodes.length ∨
        (g.successors v).eraseDups = [] := by
      by_cases h : (g.successors v).eraseDups = []
      · exact .inr h
      · obtain ⟨z, hz⟩ := List.exists_mem_of_ne_nil _ h
        obtain ⟨l, hvz⟩ := mem_successors.mp (List.mem_eraseDups.mp hz)
        have hlt := unseen_card_lt hz (hg.spans _ hvz).2 List.not_mem_nil
        have hle : (g.unseen []).card ≤ g.nodes.length := by
          simpa [unseen] using List.toFinset_card_le g.nodes
        rw [List.nil_append] at hlt
        exact .inl (by omega)
    have hclosed := reachFrom_closed hg v _ _ _ (walk_start v) hfuel
    intro h
    induction h with
    | single hxy => exact hclosed _ (.inl rfl) _ hxy
    | tail _ hyz ih => exact hclosed _ (.inr ih) _ hyz

/-! ## §5. The components with a cycle -/

theorem lookup_map_pair {f : ShapeId → List ShapeId} (a : ShapeId) :
    ∀ l : List ShapeId, (l.map fun v => (v, f v)).lookup a = if a ∈ l then some (f a) else none
  | [] => rfl
  | x :: l => by
    rw [List.map_cons, List.lookup_cons, lookup_map_pair a l]
    by_cases hx : a = x
    · subst hx
      simp
    · simp [beq_false_of_ne hx, hx]

/-- The test `cycles` makes on two nodes is reachability by one edge or more. -/
theorem reaches_iff (hg : g.Consistent) {a b : ShapeId} :
    (((g.nodes.map fun v => (v, g.reachable v)).lookup a).map (·.contains b)).getD false = true ↔
      TransGen g.Edge a b := by
  rw [lookup_map_pair]
  split_ifs with ha
  · simp [mem_reachable_iff hg]
  · simp only [Option.map_none, Option.getD_none, Bool.false_eq_true, false_iff]
    intro h
    -- a path starts with an edge, and edges start at nodes
    obtain ⟨c, ⟨l, hac⟩, -⟩ := TransGen.head'_iff.mp h
    exact ha (hg.spans _ hac).1

section Listing

variable (hg : g.Consistent) {R : ShapeId → ShapeId → Bool}
  (hR : ∀ a b, R a b = true ↔ TransGen g.Edge a b)
include hg hR

/-- The list `cycles` makes for a node `v` on a cycle holds the members of the
component of `v`. -/
theorem mem_sort_component {v u : ShapeId} (hv : TransGen g.Edge v v) :
    u ∈ ShapeId.sort (v :: g.nodes.filter fun u => u != v && R v u && R u v) ↔
      ReflTransGen g.Edge v u ∧ ReflTransGen g.Edge u v := by
  simp only [ShapeId.sort, List.mem_mergeSort, List.mem_cons, List.mem_filter, Bool.and_eq_true,
    bne_iff_ne, ne_eq, hR]
  constructor
  · rintro (rfl | ⟨-, ⟨-, hvu⟩, huv⟩)
    · exact ⟨.refl, .refl⟩
    · exact ⟨hvu.to_reflTransGen, huv.to_reflTransGen⟩
  · rintro ⟨hvu, huv⟩
    by_cases h : u = v
    · exact .inl h
    · -- away from `v`, each way round is a path of one edge or more
      have hvu' := (reflTransGen_iff_eq_or_transGen.mp hvu).resolve_left h
      have huv' := (reflTransGen_iff_eq_or_transGen.mp huv).resolve_left (Ne.symm h)
      exact .inr ⟨hg.target_mem hvu', ⟨h, hvu'⟩, huv'⟩

/-- The lists `cycles` makes are the components with a cycle, each in ID order. -/
theorem mem_components_iff {C : List ShapeId} :
    (∃ v ∈ g.nodes, (if R v v = true then
        some (ShapeId.sort (v :: g.nodes.filter fun u => u != v && R v u && R u v)) else none) = some C) ↔
      Keyed.Sorted ShapeId.compare id C ∧ ∃ v ∈ C, TransGen g.Edge v v ∧
        ∀ u, u ∈ C ↔ ReflTransGen g.Edge v u ∧ ReflTransGen g.Edge u v := by
  -- a node and the others of its component are listed once
  have hnodup : ∀ v, (v :: g.nodes.filter fun u => u != v && R v u && R u v).Nodup := fun v =>
    List.nodup_cons.mpr ⟨by simp, hg.nodup.filter _⟩
  constructor
  · rintro ⟨v, -, h⟩
    split at h
    · next hvv =>
      cases h
      have hv := (hR v v).mp hvv
      refine ⟨ShapeId.sorted_sort (hnodup v), v, ?_, hv, fun u => mem_sort_component hg hR hv⟩
      exact (mem_sort_component hg hR hv).mpr ⟨.refl, .refl⟩
    · cases h
  · rintro ⟨hsorted, v, -, hv, hC⟩
    refine ⟨v, hg.source_mem hv, ?_⟩
    rw [if_pos ((hR v v).mpr hv)]
    exact congrArg some (Keyed.Sorted.eq_of_mem_iff (ShapeId.sorted_sort (hnodup v)) hsorted
      fun u => (mem_sort_component hg hR hv).trans (hC u).symm)

end Listing

theorem mem_cycles_iff (hg : g.Consistent) {C : List ShapeId} :
    C ∈ g.cycles ↔ Keyed.Sorted ShapeId.compare id C ∧ ∃ v ∈ C, TransGen g.Edge v v ∧
      ∀ u, u ∈ C ↔ ReflTransGen g.Edge v u ∧ ReflTransGen g.Edge u v := by
  unfold cycles
  simp only [List.mem_mergeSort, List.mem_eraseDups, List.mem_filterMap]
  exact mem_components_iff hg fun a b => reaches_iff hg

/-- Each component is listed once. -/
theorem nodup_cycles : g.cycles.Nodup := by
  unfold cycles
  exact (List.mergeSort_perm _ _).nodup_iff.mpr (nodup_eraseDups _)

/-- A node on a cycle lies in a listed component. -/
theorem exists_mem_cycles (hg : g.Consistent) {v : ShapeId} (hv : TransGen g.Edge v v) :
    ∃ C ∈ g.cycles, v ∈ C := by
  unfold cycles
  simp only [List.mem_mergeSort, List.mem_eraseDups, List.mem_filterMap]
  refine ⟨_, ⟨v, hg.source_mem hv, if_pos ((reaches_iff hg).mpr hv)⟩, ?_⟩
  simp [ShapeId.sort]

/-- The lists `cycles` returns are the strongly connected components with two
members or more, or with an edge from a member to itself. -/
theorem mem_cycles_iff_isComponent (hg : g.Consistent) {C : List ShapeId} :
    C ∈ g.cycles ↔ IsComponent g.Edge C ∧ (2 ≤ C.length ∨ ∃ v ∈ C, g.Edge v v) := by
  rw [mem_cycles_iff hg]
  constructor
  · rintro ⟨hs, v, hv, hvv, hC⟩
    have hcomp : IsComponent g.Edge C := ⟨hs, v, hv, hC⟩
    exact ⟨hcomp, (transGen_self_iff hcomp.nodup hC).mp hvv⟩
  · rintro ⟨hcomp, hcyc⟩
    have hnd := hcomp.nodup
    obtain ⟨hs, v, hv, hC⟩ := hcomp
    exact ⟨hs, v, hv, (transGen_self_iff hnd hC).mpr hcyc, hC⟩

/-- A node lies on a cycle exactly when it lies in one listed component. -/
theorem transGen_self_iff_existsUnique (hg : g.Consistent) {S : ShapeId} :
    TransGen g.Edge S S ↔ ∃! C, C ∈ g.cycles ∧ S ∈ C := by
  constructor
  · intro hS
    obtain ⟨C, hC, hSC⟩ := exists_mem_cycles hg hS
    refine ⟨C, ⟨hC, hSC⟩, fun C' ⟨hC', hSC'⟩ => ?_⟩
    exact ((mem_cycles_iff_isComponent hg).mp hC').1.eq_of_mem
      ((mem_cycles_iff_isComponent hg).mp hC).1 hSC' hSC
  · rintro ⟨C, ⟨hC, hSC⟩, -⟩
    obtain ⟨-, v, -, hvv, hmem⟩ := (mem_cycles_iff hg).mp hC
    obtain ⟨hvS, hSv⟩ := (hmem S).mp hSC
    exact TransGen.trans_right hSv (hvv.trans_left hvS)

end ShapeGraph

/-! ## §6. The edges of required members -/

/-- `a` is a structure of the model, one of whose members carries the prelude
`required` trait and targets `b`. -/
def RequiredEdge (m : Model) (a b : ShapeId) : Prop :=
  ∃ s ∈ m.shapes, s.id = a ∧ ∃ ms, s.body = .structure ms ∧
    ∃ mm ∈ ms, mm.target = b ∧ mm.toShape.hasPreludeTrait "required" = true

/-- The relationships of a shape of type structure: one to each member, which
records the member's target. -/
theorem mem_neighbors_of_structure {m : Model} {s : Shape} {r : Relationship}
    (hr : r ∈ neighbors m false s) (ht : s.type = .structure) :
    ∃ ms, s.body = .structure ms ∧ ∃ mm ∈ ms,
      r = { shape := s.id, kind := .structureMember, neighbor := mm.id, resolved := true,
            memberTarget := some mm.target } := by
  rcases s with ⟨id, body, traits, source⟩
  cases body <;> simp only [Shape.type, Body.type, reduceCtorEq] at ht
  · -- a simple body, even one that names the structure type, has no relationship
    simp [neighbors] at hr
  · next ms =>
    simp only [neighbors, Bool.false_eq_true, ↓reduceIte, List.append_nil, List.mem_map] at hr
    obtain ⟨mm, hmm, rfl⟩ := hr
    exact ⟨ms, rfl, mm, hmm, rfl⟩

/-- In a structure whose members have distinct IDs, looking a member up by its
ID finds that member. -/
theorem find?_memberShapes {s : Shape} {ms : List Member} (hs : s.body = .structure ms)
    (hnd : (s.memberShapes.map (·.id)).Nodup) {mm : Member} (hmm : mm ∈ ms) :
    s.memberShapes.find? (·.id == mm.id) = some mm.toShape := by
  have hmem : mm.toShape ∈ s.memberShapes := by
    rw [Shape.memberShapes_eq, hs]
    exact List.mem_map_of_mem hmm
  cases hx : s.memberShapes.find? (·.id == mm.id) with
  | none =>
    have := List.find?_eq_none.mp hx _ hmem
    simp [Member.toShape] at this
  | some x =>
    have hxid : x.id = mm.id := by simpa using List.find?_some hx
    rw [List.inj_on_of_nodup_map hnd (List.mem_of_find?_eq_some hx) hmem hxid]

/-- With the members of each structure under distinct IDs, the edges of the
graph the recursion check builds are the required members' targets. -/
theorem edge_requiredGraph_iff {m : Model} (hm : ∀ s ∈ m.shapes, (s.memberShapes.map (·.id)).Nodup)
    {a b : ShapeId} :
    (ShapeGraph.ofModel m fun s r => r.kind == .structureMember && s.type == .structure &&
      ((s.memberShapes.find? (·.id == r.neighbor)).map (·.hasPreludeTrait "required")).getD false).Edge a b ↔
      RequiredEdge m a b := by
  rw [ShapeGraph.edge_ofModel_iff]
  constructor
  · rintro ⟨s, hs, -, r, hr, -, hkeep, rfl, hb⟩
    simp only [Bool.and_eq_true, beq_iff_eq] at hkeep
    obtain ⟨⟨-, htype⟩, hreq⟩ := hkeep
    obtain ⟨ms, hms, mm, hmm, rfl⟩ := mem_neighbors_of_structure hr htype
    refine ⟨s, hs, rfl, ms, hms, mm, hmm, hb, ?_⟩
    simpa [find?_memberShapes hms (hm s hs) hmm] using hreq
  · rintro ⟨s, hs, rfl, ms, hms, mm, hmm, rfl, hreq⟩
    have htype : s.type = .structure := by simp [Shape.type, hms, Body.type]
    have hr : (⟨s.id, .structureMember, mm.id, true, some mm.target⟩ : Relationship) ∈
        neighbors m false s := by
      simp only [neighbors, hms, Bool.false_eq_true, ↓reduceIte, List.append_nil]
      exact List.mem_map_of_mem hmm
    refine ⟨s, hs, by simp [Shape.isMember, htype], _, hr, rfl, ?_, rfl, rfl⟩
    simp [htype, find?_memberShapes hms (hm s hs) hmm, hreq]

/-! ## §7. The recursion check -/

theorem checkRecursion_reports_required_cycles (m : Model)
    (hm : ∀ s ∈ m.shapes, (s.memberShapes.map (·.id)).Nodup) :
    ∃ cycles : List (List ShapeId),
      List.Forall₂ (fun C (e : Event) => e.id = "ShapeRecursion" ∧ e.severity = .error ∧
          e.shapeId = C.head? ∧
          e.message = "Found a recursive reference through required structure members that can never be satisfied between the following shapes: " ++ ticked (C.map ShapeId.text))
        cycles (checkRecursion m) ∧
      cycles.Nodup ∧
      (∀ C, C ∈ cycles ↔ IsComponent (RequiredEdge m) C ∧ (2 ≤ C.length ∨ ∃ v ∈ C, RequiredEdge m v v)) ∧
      ∀ S, TransGen (RequiredEdge m) S S ↔ ∃! C, C ∈ cycles ∧ S ∈ C := by
  unfold checkRecursion
  dsimp only
  generalize hG : ShapeGraph.ofModel m (fun s r => r.kind == .structureMember && s.type == .structure &&
    ((s.memberShapes.find? (·.id == r.neighbor)).map (·.hasPreludeTrait "required")).getD false) = g
  have hg : g.Consistent := hG ▸ ShapeGraph.consistent_ofModel _ _
  have hE : g.Edge = RequiredEdge m := by
    subst hG
    funext a b
    exact propext (edge_requiredGraph_iff hm)
  rw [← hE]
  refine ⟨g.cycles, List.Forall₂.imp (fun C e hCe => ?_) (forall₂_filterMap_of_isSome fun C hC => ?_),
    ShapeGraph.nodup_cycles, fun C => ShapeGraph.mem_cycles_iff_isComponent hg,
    fun S => ShapeGraph.transGen_self_iff_existsUnique hg⟩
  · -- the event names the component, at its first ID
    cases C with
    | nil => cases hCe
    | cons first rest =>
      simp only [List.head?_cons, Option.map_some, Option.some.injEq] at hCe
      split at hCe
      · next s hs =>
        subst hCe
        simp [Event.withShape, Model.id_of_get? hs, toString]
      · subst hCe
        simp [toString]
  · -- every listed component has a member
    obtain ⟨-, v, hv, -⟩ := (ShapeGraph.mem_cycles_iff hg).mp hC
    cases C with
    | nil => cases hv
    | cons first rest => rfl

/-- Two structures whose required members `next` target each other. -/
def mutuallyRequiredModel : Model :=
  ⟨[⟨⟨"ns", "A", none⟩, .structure [nextOfA], [], .none⟩, nextOfA.toShape,
    ⟨⟨"ns", "B", none⟩, .structure [nextOfB], [], .none⟩, nextOfB.toShape], []⟩
where
  /-- `ns#A$next`, required, targets `ns#B`. -/
  nextOfA : Member :=
    ⟨⟨"ns", "A", some "next"⟩, ⟨"ns", "B", none⟩, [⟨ShapeId.prelude "required", .obj [], .none⟩], .none⟩
  /-- `ns#B$next`, required, targets `ns#A`. -/
  nextOfB : Member :=
    ⟨⟨"ns", "B", some "next"⟩, ⟨"ns", "A", none⟩, [⟨ShapeId.prelude "required", .obj [], .none⟩], .none⟩

theorem mutuallyRequiredModel_reports_cycles :
    (∀ s ∈ mutuallyRequiredModel.shapes, (s.memberShapes.map (·.id)).Nodup) ∧
    ∃ cycles : List (List ShapeId),
      List.Forall₂ (fun C (e : Event) => e.id = "ShapeRecursion" ∧ e.severity = .error ∧
          e.shapeId = C.head? ∧
          e.message = "Found a recursive reference through required structure members that can never be satisfied between the following shapes: " ++ ticked (C.map ShapeId.text))
        cycles (checkRecursion mutuallyRequiredModel) ∧
      cycles.Nodup ∧
      (∀ C, C ∈ cycles ↔ IsComponent (RequiredEdge mutuallyRequiredModel) C ∧
        (2 ≤ C.length ∨ ∃ v ∈ C, RequiredEdge mutuallyRequiredModel v v)) ∧
      ∀ S, TransGen (RequiredEdge mutuallyRequiredModel) S S ↔ ∃! C, C ∈ cycles ∧ S ∈ C :=
  have hm : ∀ s ∈ mutuallyRequiredModel.shapes, (s.memberShapes.map (·.id)).Nodup := by decide
  ⟨hm, checkRecursion_reports_required_cycles mutuallyRequiredModel hm⟩

end ShapeKit
