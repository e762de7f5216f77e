import ShapeKit.Proofs.SelectorLaws
import ShapeKit.Proofs.ModelMembers

/-!
# `:topdown` without a disqualifier

`:topdown(Q)` walks depth first from each service, resource and operation of
its input, down the resolved `RESOURCE` and `OPERATION` relationships of the
index (`NeighborIndex.Binds`). A shape is marked when `Q` yields something
from it or from the shape the walk came from. Each root has a visited set of
its own, so a shape first reached from a root through unqualified shapes is
not looked at again from that root, even when a qualified path also leads to
it.

Without a disqualifier the result is nevertheless exactly the set of shapes
below a qualified shape that lies below a root. A binding relationship starts
only at a service or resource of the model, so a qualified shape with
bindings is a root itself when the input holds every service, resource and
operation: the walk from it marks everything below it. A qualified shape with
no bindings is below nothing but itself, and every walk that visits it marks
it (`Selector.Context.mem_topDown_iff`).

  * §1 — binding relationships of a built index start at services and
    resources of the model and end at shapes of the model;
  * §2 — what one visit keeps, a whole walk keeps (`topDown_invariant`):
    marked shapes lie below a qualified one, and without a disqualifier the
    walk marks each qualified shape it visits, and everything it visits when
    it starts qualified;
  * §3 — with a round of fuel for each shape of the model, the walk from a
    shape visits everything below it (`topDown_covers`);
  * §4 — the result of `:topdown(Q)`.
-/

namespace ShapeKit

open Relation

/-! ## §1. Binding relationships -/

/-- A resolved `RESOURCE` or `OPERATION` relationship of the index from `a` to
another shape `b`: the step of the top-down walk. -/
def NeighborIndex.Binds (ix : NeighborIndex) (a b : ShapeId) : Prop :=
  ∃ r ∈ ix.relationships, r.shape = a ∧ (r.kind = .resource ∨ r.kind = .operation) ∧
    r.resolved = true ∧ r.neighbor = b ∧ b ≠ a

/-- An ID the model finds is the ID of one of its shapes. -/
theorem Model.mem_ids_of_isSome_get? {m : Model} {x : ShapeId} (h : (m.get? x).isSome = true) :
    x ∈ m.shapes.map (·.id) := by
  obtain ⟨s, hs⟩ := Option.isSome_iff_exists.mp h
  exact List.mem_map.mpr ⟨s, List.mem_of_find?_eq_some hs, Model.id_of_get? hs⟩

/-- A binding relationship of a shape of the model starts at a service or
resource of the model, and when resolved ends at a shape of the model. -/
theorem binds_of_mem_neighbors {m : Model} {s : Shape} (hs : s ∈ m.shapes) (withTraits : Bool)
    {r : Relationship} (hr : r ∈ neighbors m withTraits s)
    (hk : r.kind = .resource ∨ r.kind = .operation) (hres : r.resolved = true) :
    r.neighbor ∈ m.shapes.map (·.id) ∧
      ∃ t ∈ m.shapes, t.id = r.shape ∧ (t.type = .service ∨ t.type = .resource) := by
  have hself : s.id ∈ m.shapes.map (·.id) := List.mem_map_of_mem hs
  unfold neighbors at hr
  rcases List.mem_append.mp hr with hr | hr
  · split at hr
    all_goals
      simp only [List.mem_append, List.mem_cons, List.mem_map, List.not_mem_nil, or_false,
        List.mem_filterMap] at hr
    case h_8 d hbody =>
      -- a resource: its operations and child resources, and the parents that bind it
      have hty : s.type = .resource := by simp [Shape.type, hbody, Body.type]
      rcases hr with ((((((((⟨_, -, rfl⟩ | h) | h) | h) | h) | h) | ⟨x, -, rfl⟩) | ⟨x, -, rfl⟩) |
        ⟨_, -, h⟩) | ⟨p, hp, rfl⟩
      · simp at hk
      iterate 5
        · split at h
          · obtain rfl := List.mem_singleton.mp h
            simp at hk
          · cases h
      · exact ⟨Model.mem_ids_of_isSome_get? hres, s, hs, rfl, .inr hty⟩
      · exact ⟨Model.mem_ids_of_isSome_get? hres, s, hs, rfl, .inr hty⟩
      · split at h
        · obtain rfl := Option.some.inj h
          simp at hk
        · cases h
      · simp only [binders, Model.shapesOfType, List.mem_append, List.mem_filter, beq_iff_eq] at hp
        rcases hp with ⟨⟨hp, hpt⟩, -⟩ | ⟨⟨hp, hpt⟩, -⟩
        · exact ⟨hself, p, hp, rfl, .inl hpt⟩
        · exact ⟨hself, p, hp, rfl, .inr hpt⟩
    case h_9 d hbody =>
      -- a service: its operations and resources
      have hty : s.type = .service := by simp [Shape.type, hbody, Body.type]
      rcases hr with (⟨x, -, rfl⟩ | ⟨x, -, rfl⟩) | ⟨_, -, h⟩
      · exact ⟨Model.mem_ids_of_isSome_get? hres, s, hs, rfl, .inl hty⟩
      · exact ⟨Model.mem_ids_of_isSome_get? hres, s, hs, rfl, .inl hty⟩
      · split at h
        · obtain rfl := Option.some.inj h
          simp at hk
        · cases h
    -- every other shape has relationships of other kinds only
    all_goals
      exfalso
      grind
  · split at hr
    · obtain ⟨t, -, rfl⟩ := List.mem_map.mp hr
      simp at hk
    · cases hr

/-- In the index of a model, a binding relationship starts at a service or
resource of the model and ends at a shape of the model. -/
theorem NeighborIndex.binds_build {m : Model} {withTraits : Bool} {a b : ShapeId}
    (h : (NeighborIndex.build m withTraits).Binds a b) :
    b ∈ m.shapes.map (·.id) ∧ ∃ t ∈ m.shapes, t.id = a ∧ (t.type = .service ∨ t.type = .resource) := by
  obtain ⟨r, hr, rfl, hk, hres, rfl, -⟩ := h
  obtain ⟨s, hs, hr⟩ := List.mem_flatMap.mp (mem_dedupRelationships hr)
  exact binds_of_mem_neighbors hs withTraits hr hk hres

namespace Selector.Context

variable (c : Context)

theorem mem_bindings (a b : ShapeId) : b ∈ c.bindings a ↔ c.index.Binds a b := by
  simp only [bindings, NeighborIndex.outgoing, List.mem_filterMap, List.mem_filter, beq_iff_eq]
  constructor
  · rintro ⟨r, ⟨hr, rfl⟩, hb⟩
    split at hb
    · next h =>
      obtain rfl := Option.some.inj hb
      simp only [Bool.and_eq_true, Bool.or_eq_true, beq_iff_eq, bne_iff_ne, ne_eq] at h
      exact ⟨r, hr, rfl, h.1.1, h.1.2, rfl, h.2⟩
    · cases hb
  · rintro ⟨r, hr, rfl, hk, hres, rfl, hne⟩
    refine ⟨r, ⟨hr, rfl⟩, ?_⟩
    rw [if_pos (by simp [hk, hres, hne])]

/-! ## §2. What a walk keeps -/

section Walk

variable (qual disq : ShapeId → Bool)

/-- **What one visit keeps, the whole walk keeps.** `Inv` holds of the state
after every visit made under a call satisfying `Pre`, and `Pre` passes from a
call to the calls on the bindings it visits with its qualification. -/
theorem topDown_invariant (Pre : ShapeId → Bool → Prop) (Inv : List ShapeId × List ShapeId → Prop)
    (hvisit : ∀ id inh visited out, Pre id inh → Inv (visited, out) → id ∉ visited →
      Inv (visited ++ [id], if (inh || qual id) && !disq id then out ++ [id] else out))
    (hpass : ∀ id inh ch, Pre id inh → ch ∈ c.bindings id → Pre ch ((inh || qual id) && !disq id)) :
    ∀ n id inh st, Pre id inh → Inv st → Inv (c.topDown qual disq n id inh st) := by
  intro n
  induction n with
  | zero => exact fun _ _ st _ h => h
  | succ n ih =>
    rintro id inh ⟨visited, out⟩ hpre hinv
    rw [topDown_succ]
    split
    · exact hinv
    · next hnew =>
      -- the bindings are walked one after another, each call keeping `Inv`
      suffices ∀ l : List ShapeId, (∀ ch ∈ l, ch ∈ c.bindings id) → ∀ st, Inv st →
          Inv (l.foldl (fun st ch => c.topDown qual disq n ch ((inh || qual id) && !disq id) st) st) from
        this _ (fun _ h => h) _ (hvisit id inh visited out hpre hinv (by simpa using hnew))
      intro l
      induction l with
      | nil => exact fun _ _ h => h
      | cons ch rest ihl =>
        intro hl st hst
        exact ihl (fun x hx => hl x (List.mem_cons_of_mem ch hx)) _
          (ih ch _ st (hpass id inh ch hpre (hl ch List.mem_cons_self)) hst)

/-- The walk only adds to what it has visited. -/
theorem visited_subset_topDown (n : Nat) (id : ShapeId) (inh : Bool) (st : List ShapeId × List ShapeId) :
    st.1 ⊆ (c.topDown qual disq n id inh st).1 :=
  c.topDown_invariant qual disq (fun _ _ => True) (fun st' => st.1 ⊆ st'.1)
    (fun _ _ _ _ _ h _ => List.Subset.trans h (List.subset_append_left _ _)) (fun _ _ _ _ _ => trivial)
    n id inh st trivial (List.Subset.refl _)

/-- The shapes below `root` through a qualified shape. -/
def QualifiedBelow (root x : ShapeId) : Prop :=
  ∃ p, ReflTransGen c.index.Binds root p ∧ qual p = true ∧ ReflTransGen c.index.Binds p x

/-- Every shape the walk from `root` marks lies below a qualified shape below
`root`, whatever the disqualifier. -/
theorem marked_qualifiedBelow (root : ShapeId) (n : Nat) (id : ShapeId) (inh : Bool)
    (st : List ShapeId × List ShapeId) (hid : ReflTransGen c.index.Binds root id)
    (hinh : inh = true → c.QualifiedBelow qual root id) (hst : ∀ x ∈ st.2, c.QualifiedBelow qual root x) :
    ∀ x ∈ (c.topDown qual disq n id inh st).2, c.QualifiedBelow qual root x := by
  refine c.topDown_invariant qual disq
    (fun id inh => ReflTransGen c.index.Binds root id ∧ (inh = true → c.QualifiedBelow qual root id))
    (fun st => ∀ x ∈ st.2, c.QualifiedBelow qual root x) ?_ ?_ n id inh st ⟨hid, hinh⟩ hst
  · -- a shape is marked when qualified itself or reached from a qualified shape
    rintro id inh visited out ⟨hid, hinh⟩ hout -
    split
    · next hq =>
      intro x hx
      rcases List.mem_append.mp hx with hx | hx
      · exact hout x hx
      · obtain rfl := List.mem_singleton.mp hx
        simp only [Bool.and_eq_true, Bool.or_eq_true] at hq
        rcases hq.1 with hq | hq
        · exact hinh hq
        · exact ⟨x, hid, hq, .refl⟩
    · exact hout
  · -- a binding lies one step further below the same qualified shape
    rintro id inh ch ⟨hid, hinh⟩ hch
    have hb := (c.mem_bindings id ch).mp hch
    refine ⟨hid.tail hb, fun hq => ?_⟩
    simp only [Bool.and_eq_true, Bool.or_eq_true] at hq
    rcases hq.1 with hq | hq
    · obtain ⟨p, hp, hqp, hpid⟩ := hinh hq
      exact ⟨p, hp, hqp, hpid.tail hb⟩
    · exact ⟨id, hid, hq, .single hb⟩

/-- Without a disqualifier, the walk marks every qualified shape it visits. -/
theorem marks_qualified (n : Nat) (id : ShapeId) (inh : Bool) (st : List ShapeId × List ShapeId)
    (hst : ∀ y ∈ st.1, qual y = true → y ∈ st.2) :
    ∀ y ∈ (c.topDown qual (fun _ => false) n id inh st).1, qual y = true →
      y ∈ (c.topDown qual (fun _ => false) n id inh st).2 := by
  refine c.topDown_invariant qual (fun _ => false) (fun _ _ => True)
    (fun st => ∀ y ∈ st.1, qual y = true → y ∈ st.2) ?_ (fun _ _ _ _ _ => trivial) n id inh st trivial hst
  rintro id inh visited out - hout -
  intro y hy hqy
  rcases List.mem_append.mp hy with hy | hy
  · have := hout y hy hqy
    split <;> simp [this]
  · obtain rfl := List.mem_singleton.mp hy
    simp [hqy]

/-- Without a disqualifier, a walk that starts qualified marks everything it
visits. -/
theorem marks_visited (n : Nat) (id : ShapeId) (inh : Bool) (st : List ShapeId × List ShapeId)
    (hq : (inh || qual id) = true) (hst : st.1 ⊆ st.2) :
    (c.topDown qual (fun _ => false) n id inh st).1 ⊆ (c.topDown qual (fun _ => false) n id inh st).2 := by
  refine c.topDown_invariant qual (fun _ => false) (fun id inh => (inh || qual id) = true)
    (fun st => st.1 ⊆ st.2) ?_ ?_ n id inh st hq hst
  · rintro id inh visited out hq hsub -
    simp only [hq, Bool.not_false, Bool.and_true, if_true]
    exact List.append_subset.mpr ⟨List.Subset.trans hsub (List.subset_append_left _ _),
      List.subset_append_right _ _⟩
  · rintro id inh ch hq -
    simp [hq]

end Walk

/-! ## §3. The walk visits everything below its start -/

/-- Every shape visited since `before` has its bindings visited. -/
def Covered (before after : List ShapeId) : Prop :=
  ∀ y ∈ after, y ∉ before → ∀ ch ∈ c.bindings y, ch ∈ after

theorem Covered.refl (v : List ShapeId) : c.Covered v v := fun _ hy hn => absurd hy hn

theorem Covered.trans {v₁ v₂ v₃ : List ShapeId} (h₁₂ : c.Covered v₁ v₂) (h₂₃ : c.Covered v₂ v₃)
    (hsub : v₂ ⊆ v₃) : c.Covered v₁ v₃ := by
  intro y hy hy₁ ch hch
  by_cases hy₂ : y ∈ v₂
  · exact hsub (h₁₂ y hy₂ hy₁ ch hch)
  · exact h₂₃ y hy hy₂ ch hch

/-- Seeing more leaves no more unseen. -/
theorem unseen_card_le {v v' : List ShapeId} (h : v ⊆ v') : (c.unseen v').card ≤ (c.unseen v).card := by
  apply Finset.card_le_card
  intro x
  simp only [unseen, Finset.mem_sdiff, List.mem_toFinset]
  exact fun hx => ⟨hx.1, fun hv => hx.2 (h hv)⟩

section Covers

variable (qual disq : ShapeId → Bool) (n : Nat)

/-- The calls of the walk at fuel `n` visit their shape and cover what they
visit, given a round of fuel for each unseen shape of the model and one more. -/
def CoversAt : Prop :=
  ∀ id inh st, id ∈ c.model.shapes.map (·.id) → (c.unseen st.1).card < n →
    id ∈ (c.topDown qual disq n id inh st).1 ∧ c.Covered st.1 (c.topDown qual disq n id inh st).1

/-- The bindings of a visit are walked one after another: when each call
covers, so does the whole fold, and it visits every binding. -/
theorem foldl_covers (hcall : c.CoversAt qual disq n) (q : Bool) (l : List ShapeId)
    (hl : ∀ ch ∈ l, ch ∈ c.model.shapes.map (·.id)) (st : List ShapeId × List ShapeId)
    (hst : (c.unseen st.1).card < n) :
    (∀ ch ∈ l, ch ∈ (l.foldl (fun st ch => c.topDown qual disq n ch q st) st).1) ∧
      c.Covered st.1 (l.foldl (fun st ch => c.topDown qual disq n ch q st) st).1 ∧
      st.1 ⊆ (l.foldl (fun st ch => c.topDown qual disq n ch q st) st).1 := by
  induction l generalizing st with
  | nil => exact ⟨fun _ h => absurd h List.not_mem_nil, Covered.refl c _, List.Subset.refl _⟩
  | cons ch rest ih =>
    simp only [List.foldl_cons]
    obtain ⟨hch, hcov⟩ := hcall ch q st (hl ch List.mem_cons_self) hst
    have hsub := c.visited_subset_topDown qual disq n ch q st
    obtain ⟨hrest, hcov', hsub'⟩ := ih (fun x hx => hl x (List.mem_cons_of_mem ch hx)) _
      (lt_of_le_of_lt (c.unseen_card_le hsub) hst)
    refine ⟨fun x hx => ?_, hcov.trans c hcov' hsub', List.Subset.trans hsub hsub'⟩
    rcases List.mem_cons.mp hx with rfl | hx
    · exact hsub' hch
    · exact hrest x hx

/-- **The walk covers what it visits.** When bindings end at shapes of the
model, a call with a round of fuel for each unseen shape and one more visits
its shape, and everything it visits has its bindings visited. -/
theorem topDown_covers (hb : ∀ a b, c.index.Binds a b → b ∈ c.model.shapes.map (·.id)) :
    ∀ n, c.CoversAt qual disq n := by
  intro n
  induction n with
  | zero => exact fun _ _ _ _ h => absurd h (Nat.not_lt_zero _)
  | succ n ih =>
    rintro id inh ⟨visited, out⟩ hid hfuel
    rw [topDown_succ]
    split
    · next hvis => exact ⟨by simpa using hvis, Covered.refl c _⟩
    · next hnew =>
      have hnot : id ∉ visited := by simpa using hnew
      -- visiting `id` leaves a round of fuel for each unseen shape and one more
      have hless : (c.unseen (visited ++ [id])).card < n := by
        have := c.unseen_card_lt (List.mem_singleton_self id) hid hnot
        have hfuel : (c.unseen visited).card < n + 1 := hfuel
        omega
      obtain ⟨hall, hcov, hsub⟩ := c.foldl_covers qual disq n ih ((inh || qual id) && !disq id)
        (c.bindings id) (fun ch h => hb _ _ ((c.mem_bindings _ _).mp h))
        (visited ++ [id], if (inh || qual id) && !disq id then out ++ [id] else out) hless
      refine ⟨hsub (List.mem_append_right _ (List.mem_singleton_self id)), ?_⟩
      intro y hy hyv ch hch
      by_cases hyid : y = id
      · exact hall ch (hyid ▸ hch)
      · exact hcov y hy (by simpa [hyid] using hyv) ch hch

/-- A visited set that holds `root` and covers all it holds holds every shape
below `root`. -/
theorem mem_of_covered {V : List ShapeId} {root : ShapeId} (hroot : root ∈ V) (hcov : c.Covered [] V)
    {x : ShapeId} (hx : ReflTransGen c.index.Binds root x) : x ∈ V := by
  induction hx with
  | refl => exact hroot
  | tail _ hb ih => exact hcov _ ih List.not_mem_nil _ ((c.mem_bindings _ _).mpr hb)

/-- The walk from a shape of the model, with a round of fuel for each shape and
one more, visits everything below it. -/
theorem below_visited (hb : ∀ a b, c.index.Binds a b → b ∈ c.model.shapes.map (·.id))
    {root : ShapeId} (hroot : root ∈ c.model.shapes.map (·.id)) {x : ShapeId}
    (hx : ReflTransGen c.index.Binds root x) :
    x ∈ (c.topDown qual disq (c.model.size + 1) root false ([], [])).1 := by
  obtain ⟨hmem, hcov⟩ := c.topDown_covers qual disq hb (c.model.size + 1) root false ([], []) hroot
    (Nat.lt_succ_of_le (unseen_nil_card_le c))
  exact c.mem_of_covered hmem hcov hx

end Covers

/-! ## §4. The shapes `:topdown` selects -/

theorem yields_eq_true (steps : List Step) (id : ShapeId) :
    c.yields steps id = true ↔ c.evalSteps steps [id] ≠ [] := by
  simp [yields]

/-- A service, resource or operation of a model with one shape per ID is a root
of `:topdown` exactly when its input holds it. -/
theorem mem_roots_iff (hids : (c.model.shapes.map (·.id)).Nodup) {s : Shape} (hs : s ∈ c.model.shapes)
    (input : List ShapeId) :
    s.id ∈ c.roots input ↔
      (s.type = .service ∨ s.type = .resource ∨ s.type = .operation) ∧ s.id ∈ input := by
  have hget : c.model.get? s.id = some s := (Model.find?_key_eq_some_iff hids).mpr ⟨hs, rfl⟩
  simp only [roots, mem_keep, hget, Option.some.injEq, exists_eq_left', Bool.or_eq_true, beq_iff_eq]
  tauto

/-- A root of `:topdown` is a service, resource or operation of the input. -/
theorem exists_of_mem_roots {input : List ShapeId} {r : ShapeId} (hr : r ∈ c.roots input) :
    ∃ s ∈ c.model.shapes, s.id = r ∧ (s.type = .service ∨ s.type = .resource ∨ s.type = .operation) ∧
      r ∈ input := by
  obtain ⟨hin, s, hget, hty⟩ := (c.mem_keep input _ r).mp hr
  simp only [Bool.or_eq_true, beq_iff_eq] at hty
  exact ⟨s, List.mem_of_find?_eq_some hget, Model.id_of_get? hget, by tauto, hin⟩

/-- `:topdown(Q)`, on a model with one shape per ID whose bindings start at
services and resources and end at shapes of the model, applied to an input
holding every service, resource and operation, selects exactly the shapes
below a shape `Q` yields something from, below a root. -/
theorem mem_topDown_iff_of_binds (hids : (c.model.shapes.map (·.id)).Nodup)
    (hb : ∀ a b, c.index.Binds a b → b ∈ c.model.shapes.map (·.id) ∧
      ∃ t ∈ c.model.shapes, t.id = a ∧ (t.type = .service ∨ t.type = .resource))
    (Q : List Step) (input : List ShapeId)
    (hinput : ∀ s ∈ c.model.shapes, (s.type = .service ∨ s.type = .resource ∨ s.type = .operation) →
      s.id ∈ input)
    (x : ShapeId) :
    x ∈ c.apply (.topDown Q none) input ↔
      ∃ s ∈ c.model.shapes, (s.type = .service ∨ s.type = .resource ∨ s.type = .operation) ∧ s.id ∈ input ∧
        ∃ p, ReflTransGen c.index.Binds s.id p ∧ c.evalSteps Q [p] ≠ [] ∧ ReflTransGen c.index.Binds p x := by
  have hend : ∀ a b, c.index.Binds a b → b ∈ c.model.shapes.map (·.id) := fun a b h => (hb a b h).1
  have hnone : c.disqualifies none = fun _ => false := rfl
  rw [apply_topDown, hnone, mem_sortIds, List.mem_flatMap]
  constructor
  · -- what a root's walk marks lies below a qualified shape below the root
    rintro ⟨r, hr, hx⟩
    obtain ⟨s, hs, rfl, hty, hin⟩ := c.exists_of_mem_roots hr
    obtain ⟨p, hsp, hqp, hpx⟩ := c.marked_qualifiedBelow (c.yields Q) (fun _ => false) s.id _ s.id false
      ([], []) .refl (fun h => absurd h Bool.false_ne_true) (fun _ h => absurd h List.not_mem_nil) x hx
    exact ⟨s, hs, hty, hin, p, hsp, (c.yields_eq_true Q p).mp hqp, hpx⟩
  · rintro ⟨s, hs, hty, hin, p, hsp, hqp, hpx⟩
    have hsid : s.id ∈ c.model.shapes.map (·.id) := List.mem_map_of_mem hs
    rcases hpx.cases_head with rfl | ⟨p', hpp', hp'x⟩
    · -- `x` is qualified itself: the walk from `s` visits it and marks it
      refine ⟨s.id, (c.mem_roots_iff hids hs input).mpr ⟨hty, hin⟩, ?_⟩
      exact c.marks_qualified (c.yields Q) _ _ _ ([], []) (fun _ h => absurd h List.not_mem_nil) p
        (c.below_visited _ _ hend hsid hsp) ((c.yields_eq_true Q p).mpr hqp)
    · -- `p` has a binding, so it is a service or resource: a root whose walk marks all below it
      obtain ⟨-, t, ht, rfl, htt⟩ := hb _ _ hpp'
      have htype : t.type = .service ∨ t.type = .resource ∨ t.type = .operation := by tauto
      refine ⟨t.id, (c.mem_roots_iff hids ht input).mpr ⟨htype, hinput t ht htype⟩, ?_⟩
      exact c.marks_visited (c.yields Q) _ t.id false ([], []) (by simpa using (c.yields_eq_true Q _).mpr hqp)
        (List.Subset.refl _) (c.below_visited _ _ hend (List.mem_map_of_mem ht) hpx)

end Selector.Context

/-- **`:topdown` without a disqualifier selects by paths.** On every model with
one shape per ID, `:topdown(Q)` applied to an input that holds every service,
resource and operation selects exactly the shapes `x` below some service,
resource or operation `r` of the input through a shape `p` that `Q` yields
something from: `r` reaches `p`, and `p` reaches `x`, along resolved `RESOURCE`
and `OPERATION` relationships of the index to other shapes. -/
theorem Selector.Context.mem_topDown_iff (m : Model) (withTraits : Bool)
    (hids : (m.shapes.map (·.id)).Nodup) (Q : List Step) (input : List ShapeId)
    (hinput : ∀ s ∈ m.shapes, (s.type = .service ∨ s.type = .resource ∨ s.type = .operation) → s.id ∈ input)
    (x : ShapeId) :
    x ∈ (⟨m, NeighborIndex.build m withTraits⟩ : Selector.Context).apply (.topDown Q none) input ↔
      ∃ s ∈ m.shapes, (s.type = .service ∨ s.type = .resource ∨ s.type = .operation) ∧ s.id ∈ input ∧
        ∃ p, ReflTransGen (NeighborIndex.build m withTraits).Binds s.id p ∧
          (⟨m, NeighborIndex.build m withTraits⟩ : Selector.Context).evalSteps Q [p] ≠ [] ∧
          ReflTransGen (NeighborIndex.build m withTraits).Binds p x :=
  Selector.Context.mem_topDown_iff_of_binds _ hids (fun _ _ h => NeighborIndex.binds_build h) Q input hinput x

/-- An operation and a structure, both carrying the trait `ns#auth`. -/
def authModel : Model where
  shapes :=
    [⟨⟨"ns", "Data", none⟩, .structure [], [⟨⟨"ns", "auth", none⟩, .obj [], SourceLocation.none⟩],
      SourceLocation.none⟩,
     ⟨⟨"ns", "Op", none⟩, .operation {}, [⟨⟨"ns", "auth", none⟩, .obj [], SourceLocation.none⟩],
      SourceLocation.none⟩]

/-- `:topdown([trait|ns#auth])` over all of `authModel` selects the operation. -/
theorem topDown_auth_selects_operation :
    (authModel.shapes.map (·.id)).Nodup ∧
      ⟨"ns", "Op", none⟩ ∈ (⟨authModel, NeighborIndex.build authModel false⟩ : Selector.Context).apply
        (.topDown [.attribute ["trait", "ns#auth"] none] none) (authModel.shapes.map (·.id)) := by
  have hids : (authModel.shapes.map (·.id)).Nodup := by decide
  refine ⟨hids, (Selector.Context.mem_topDown_iff authModel false hids _ _
    (fun s hs _ => List.mem_map_of_mem hs) _).mpr ?_⟩
  refine ⟨_, List.mem_cons_of_mem _ List.mem_cons_self, .inr (.inr rfl), by decide, _, .refl, ?_, .refl⟩
  decide +kernel

end ShapeKit
