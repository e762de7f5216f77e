import ShapeKit.Proofs.Reload.Rebuild
import ShapeKit.Proofs.Reassemble

/-!
# A written model reads back as itself

Reading a model's document into a fresh loader declares each written shape
once (`Model.rereadLoader_eq`), and finishing that loader gives each written
shape and member the traits it is written with (`Model.rereadState_finalized`).
This module takes the last steps and meets the model's own layers
(`Model.Layered`):

  * §1: taking places out of a model's shapes commutes with putting shapes in,
    so models built from shapes that differ only in places are equal once the
    places are out (`Model.insertShapes_placeless`);
  * §2–§3: a shape read back is declared in the pending form of itself with
    the places of its keys (`Shape.Rereadable.bound_eq_ofShape`), once its
    traits are the ones it is written with (§4, `Model.Carries.own` and
    `Model.Carries.member`);
  * §5: so finishing the document builds every written shape again and
    reports nothing (`Model.finish_rereadState`);
  * §6: a layered model that is reloadable and defines every trait it applies
    reads back from its document as itself, places apart
    (`Model.Layered.reload`).
-/

namespace ShapeKit

open Json Keyed

/-! ## §1. Places taken out -/

namespace Shape

@[simp] theorem placeless_id (s : Shape) : s.placeless.id = s.id := rfl

/-- Taking the places out of a shape takes them out of its members. -/
theorem memberShapes_placeless (s : Shape) : s.placeless.memberShapes = s.memberShapes.map Shape.placeless := by
  simp only [Shape.placeless, Shape.setPlaces, memberShapes, Body.members_mapMembers, List.map_map]
  rfl

end Shape

namespace Model

theorem putShape_placeless (xs : List Shape) (s : Shape) :
    (putShape xs s).map Shape.placeless = putShape (xs.map Shape.placeless) s.placeless := by
  induction xs with
  | nil => rfl
  | cons t rest ih =>
    cases h : ShapeId.compare s.id t.id <;> simp [putShape, h, ih]

theorem foldl_putShape_placeless (ms xs : List Shape) :
    (ms.foldl putShape xs).map Shape.placeless = (ms.map Shape.placeless).foldl putShape (xs.map Shape.placeless) := by
  induction ms generalizing xs with
  | nil => rfl
  | cons m rest ih => simp [ih, putShape_placeless]

theorem get?_placeless (m : Model) (id : ShapeId) : m.placeless.get? id = (m.get? id).map Shape.placeless := by
  simp [get?, Model.placeless, List.find?_map, Function.comp_def]

theorem staleIds_placeless (m : Model) (s : Shape) : m.placeless.staleIds s.placeless = m.staleIds s := by
  unfold staleIds
  rw [Shape.placeless_id, get?_placeless]
  cases m.get? s.id <;> simp [Shape.memberShapes_placeless, Function.comp_def]

/-- Taking the places out of a model's shapes commutes with putting a shape
into it: the members it drops first are found by ID, which places leave. -/
theorem insertShape_placeless (m : Model) (s : Shape) :
    (m.insertShape s).shapes.map Shape.placeless = (m.placeless.insertShape s.placeless).shapes := by
  rw [insertShape_shapes, insertShape_shapes, staleIds_placeless]
  simp only [Model.placeless, putShape_placeless, foldl_putShape_placeless, Shape.memberShapes_placeless,
    List.filter_map, Function.comp_def, Shape.placeless_id]

theorem insertShapes_placeless (m : Model) (ss : List Shape) :
    (m.insertShapes ss).shapes.map Shape.placeless = (m.placeless.insertShapes (ss.map Shape.placeless)).shapes := by
  induction ss generalizing m with
  | nil => rfl
  | cons s rest ih =>
    have hm : (m.insertShape s).placeless = m.placeless.insertShape s.placeless := by
      simp only [Model.placeless, insertShape_placeless]
      rfl
    simp only [insertShapes, List.foldl_cons, List.map_cons] at ih ⊢
    rw [ih, hm]

end Model

/-! ## §2. Places set -/

namespace Shape

variable (s : Shape) (a : SourceLocation) (f : Member → SourceLocation)

theorem memberShapes_setPlaces :
    (s.setPlaces a f).memberShapes = s.body.members.map fun m => (m.setPlace (f m)).toShape := by
  simp only [setPlaces, memberShapes, Body.members_mapMembers, List.map_map]
  rfl

/-- Setting places keeps the ID of every member. -/
theorem memberShapes_setPlaces_ids :
    (s.setPlaces a f).memberShapes.map (·.id) = s.memberShapes.map (·.id) := by
  rw [memberShapes_setPlaces]
  simp [memberShapes, Member.setPlace, Member.toShape, Function.comp_def]

theorem memberShapes_setPlaces_names :
    (s.setPlaces a f).memberShapes.map (·.memberName) = s.memberShapes.map (·.memberName) := by
  rw [memberShapes_setPlaces]
  simp [memberShapes, Member.setPlace, Member.toShape, memberName, Function.comp_def]

/-- Setting places leaves a shape's builder but for its place and its traits'. -/
theorem toBuilder_setPlaces :
    { (s.setPlaces a f).toBuilder with members := [] } =
      { s.toBuilder with source := a, traits := s.traits.setPlace a, members := [] } := by
  rcases s with ⟨id, body, traits, src⟩
  cases body <;> rfl

variable {s}

/-- Places are no part of being well formed. -/
theorem WellFormed.setPlaces (hs : s.WellFormed) : (s.setPlaces a f).WellFormed where
  id_isMember := by simpa [isMember] using hs.id_isMember
  simple t h := hs.simple t (by cases hb : s.body <;> simp_all [Shape.setPlaces, Body.mapMembers])
  member_id m hm := by
    have hid : m.id ∈ s.memberShapes.map (·.id) := by
      rw [← memberShapes_setPlaces_ids s a f]
      exact List.mem_map_of_mem hm
    obtain ⟨m', hm', hmid⟩ := List.mem_map.mp hid
    rw [← hmid]
    exact hs.member_id m' hm'
  names_nodup := by
    rw [memberShapes_setPlaces_names]
    exact hs.names_nodup
  fixed names h := by
    rw [memberShapes_setPlaces_names]
    exact hs.fixed names (by simpa using h)

end Shape

/-! ## §3. The pending form of a shape read back -/

/-- **A written shape is declared again in the pending form of itself read
back**, once its traits and its members' are the ones it is written with, at
the places of their keys. -/
theorem Shape.Rereadable.bound_eq_ofShape {s : Shape} (hs : s.Rereadable) (ho : s.Ordered) (loc : Locator)
    {g : ShapeId → TraitMap} (hown : g s.id = (s.relocate loc).traits)
    (hmem : ∀ x ∈ s.body.members, g x.id = (x.setPlace (loc.key x.name (loc.key s.id.text 0).2).1).traits) :
    s.bound loc g = PendingShape.ofShape (s.relocate loc) := by
  have hwf : (s.relocate loc).WellFormed := hs.wellFormed.setPlaces _ _
  have hbuilder : (PendingShape.ofShape (s.relocate loc)).builder = (s.bound loc g).builder := by
    rw [PendingShape.ofShape_builder hwf, Shape.relocate, Shape.toBuilder_setPlaces, Shape.bound,
      hs.bind_rereadBuilder ho, hown]
    rfl
  have hmembers : (PendingShape.ofShape (s.relocate loc)).members = (s.bound loc g).members := by
    simp only [PendingShape.ofShape, Shape.relocate, Shape.memberShapes_setPlaces, Shape.bound, List.map_map]
    refine List.map_congr_left fun x hx => ?_
    simp only [Function.comp_apply, Member.bound, hmem x hx]
    rfl
  calc s.bound loc g = ⟨(s.bound loc g).builder, [], (s.bound loc g).members⟩ := rfl
    _ = ⟨(PendingShape.ofShape (s.relocate loc)).builder, [], (PendingShape.ofShape (s.relocate loc)).members⟩ := by
      rw [hbuilder, hmembers]
    _ = PendingShape.ofShape (s.relocate loc) := rfl

/-! ## §4. The traits finishing gives back -/

namespace Model

variable {m : Model} {loc : Locator}

/-- The applications a document reads back to an ID whose container is a
written shape are those of that shape read back. -/
theorem mem_rereadPairs_iff (hr : m.Reloadable) {s : Shape} (hs : s ∈ m.written) {X : ShapeId}
    (hX : X.withoutMember = s.id) (t : Trait) :
    (X, t) ∈ m.rereadPairs loc ↔ (X, t) ∈ (s.relocate loc).traitApps := by
  refine ⟨fun h => ?_, fun h => mem_rereadPairs.mpr ⟨s, hs, h⟩⟩
  obtain ⟨s', hs', ha⟩ := mem_rereadPairs.mp h
  have hc : X.withoutMember = s'.id :=
    (hr.rereadable s' hs').withoutMember_of_target (Shape.target_of_mem_traitApps_relocate ha)
  -- one written shape per ID
  obtain rfl : s' = s := List.inj_on_of_nodup_map hr.written_sorted.nodup_keys hs' hs (hc.symm.trans hX)
  exact ha

namespace Carries

variable {g : ShapeId → TraitMap} (hr : m.Reloadable) (hg : Carries g (m.rereadPairs loc))
include hr hg

/-- The traits finishing gives a written shape are the ones it is written
with, at the place of its key. -/
theorem own {s : Shape} (hs : s ∈ m.written) : g s.id = (s.relocate loc).traits := by
  have hrs := hr.rereadable s hs
  refine Sorted.eq_of_mem_iff (hg.sorted s.id) ?_ fun t => ?_
  · -- setting places keeps the trait IDs
    simpa [Shape.relocate, Shape.setPlaces, TraitMap.setPlace, Sorted, List.pairwise_map] using
      (hr.ordered s hs).traits
  · rw [hg.mem_iff, mem_rereadPairs_iff hr hs (ShapeId.withoutMember_eq_self hrs.id_isMember), Shape.mem_traitApps]
    refine ⟨?_, fun ht => .inr ⟨rfl, ht⟩⟩
    rintro (⟨x, hx, hid, -⟩ | ⟨-, ht⟩)
    · -- no member has the shape's ID
      simp only [Shape.relocate, Shape.setPlaces, Body.members_mapMembers, List.mem_map] at hx
      obtain ⟨y, hy, rfl⟩ := hx
      have hmember := (hrs.member_id hy).1
      rw [show y.id = s.id from hid.symm, hrs.id_isMember] at hmember
      cases hmember
    · exact ht

/-- The traits finishing gives a member of a written shape are the ones it is
written with, at the place of its key. -/
theorem member {s : Shape} (hs : s ∈ m.written) {x : Member} (hx : x ∈ s.body.members) :
    g x.id = (x.setPlace (loc.key x.name (loc.key s.id.text 0).2).1).traits := by
  have hrs := hr.rereadable s hs
  refine Sorted.eq_of_mem_iff (hg.sorted x.id) ?_ fun t => ?_
  · simpa [Member.setPlace, TraitMap.setPlace, Sorted, List.pairwise_map] using
      (hr.ordered s hs).member_traits x hx
  · rw [hg.mem_iff, mem_rereadPairs_iff hr hs (hrs.member_id hx).2, Shape.mem_traitApps]
    have hxmem : x.setPlace (loc.key x.name (loc.key s.id.text 0).2).1 ∈ (s.relocate loc).body.members := by
      rw [Shape.relocate, Shape.setPlaces, Body.members_mapMembers]
      exact List.mem_map_of_mem hx
    refine ⟨?_, fun ht => .inl ⟨_, hxmem, rfl, ht⟩⟩
    rintro (⟨y, hy, hid, ht⟩ | ⟨hid, -⟩)
    · simp only [Shape.relocate, Shape.setPlaces, Body.members_mapMembers, List.mem_map] at hy
      obtain ⟨y, hy, rfl⟩ := hy
      -- one member per ID
      obtain rfl : y = x := List.inj_on_of_nodup_map hrs.member_ids_nodup hy hx hid.symm
      exact ht
    · -- the shape's ID is no member's
      have hmember := (hrs.member_id hx).1
      rw [show x.id = s.id from hid, hrs.id_isMember] at hmember
      cases hmember

end Carries

/-! ## §5. Finishing a document read back -/

open Loader

/-- **Finishing a reloadable model's document read back** builds each written
shape again, read back at the places of its keys, over the prelude, puts the
metadata back, and reports nothing, when every trait it applies is defined. -/
theorem finish_rereadState (hr : m.Reloadable) (hdef : m.TraitsDefined) (loc : Locator) (ns : Option String) :
    (m.rereadState loc ns).finish.events = [] ∧
      (m.rereadState loc ns).finish.model.shapes =
        ((({} : Model).addModel prelude).insertShapes (m.written.map (·.relocate loc))).shapes ∧
      (m.rereadState loc ns).finish.model.metadata = m.metadata := by
  obtain ⟨g, hfin, hg⟩ := rereadState_finalized hr hdef loc ns
  -- every written shape is declared in the pending form of itself read back
  have hbuild : (m.rereadState loc ns).finalized.buildShapes = (m.written.map (·.relocate loc), []) := by
    rw [hfin]
    refine buildShapes_of_pending (fun r hr' => ?_) ?_
    · obtain ⟨s, hs, rfl⟩ := List.mem_map.mp hr'
      exact (hr.rereadable s hs).wellFormed.setPlaces _ _
    · simp only [rereadApplied, List.map_map]
      refine List.map_congr_left fun s hs => ?_
      rw [(hr.rereadable s hs).bound_eq_ofShape (hr.ordered s hs) loc (hg.own hr hs)
        fun x hx => hg.member hr hs hx]
      rfl
  have hmeta : Sorted compare Prod.fst (m.rereadState loc ns).metadata := by
    simpa [rereadState, Sorted, List.pairwise_map] using hr.metadata_sorted
  refine ⟨?_, ?_, ?_⟩
  · rw [finish_eq, hbuild]
  · rw [finish_eq, foldl_putMetadata_shapes, finalized_baseModel, hbuild]
    rfl
  · rw [finish_metadata hmeta]
    simp [rereadState, Function.comp_def]

end Model

/-! ## §6. A written model read back -/

/-- Reading the written shapes back changes their places only. -/
theorem Model.insertShapes_relocate_placeless (m : Model) (ss : List Shape) (loc : Locator) :
    (m.insertShapes (ss.map (·.relocate loc))).shapes.map Shape.placeless =
      (m.insertShapes ss).shapes.map Shape.placeless := by
  rw [Model.insertShapes_placeless, Model.insertShapes_placeless, List.map_map]
  congr 2
  exact List.map_congr_left fun s _ => Shape.placeless_setPlaces s _ _

/-- **A layered model reads back from its document as itself.** When the model
is reloadable and every trait it applies is defined, loading the text of its
document into a fresh loader succeeds, and finishing reports nothing and gives
the model back, places apart. -/
theorem Model.Layered.reload {M : Model} {built : List Shape} (hM : M.Layered built) (hr : M.Reloadable)
    (hdef : M.TraitsDefined) {name text : String} (hread : read text = .ok M.toDocument) :
    ∃ l, ({} : Loader).load name text = (l, none) ∧ l.finish.events = [] ∧
      l.finish.model.placeless = M.placeless := by
  have hrun : (loadDocument name text).run.run {} = (.ok (), M.rereadLoader ⟨name, text.toList.toArray⟩) :=
    run_loadDocument_toDocument hread hr.rereadable
  obtain ⟨ns, hns⟩ := M.rereadLoader_eq ⟨name, text.toList.toArray⟩ hr.written_sorted hr.metadata_sorted
  obtain ⟨hev, hshapes, hmeta⟩ := M.finish_rereadState hr hdef ⟨name, text.toList.toArray⟩ ns
  refine ⟨M.rereadState ⟨name, text.toList.toArray⟩ ns, ?_, hev, ?_⟩
  · rw [Loader.load, hrun, hns]
  · -- the written shapes are the ones built over the prelude
    have hwritten : M.written = built := hM.filter_declaresBuilt
    unfold Model.placeless
    rw [hshapes, hmeta, Model.insertShapes_relocate_placeless, hwritten, ← hM.shapes]

end ShapeKit
