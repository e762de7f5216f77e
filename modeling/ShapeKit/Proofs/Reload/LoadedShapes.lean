import ShapeKit.Proofs.Reload.LoadedIds
import ShapeKit.Proofs.Reload.Rebuild
import ShapeKit.Proofs.TraitDefinitions

/-!
# The shapes a load builds read back

A shape written into a document reads back when every ID in it reads back from
its text and its parts are kept in order (`Shape.Rereadable`, `Shape.Ordered`).
This module shows that the shapes a tidy load with valid IDs builds are such
shapes:

  * §1: the IDs a builder binds (`Builder.refIds`): resolving references binds
    only the IDs they resolve to, and a built shape binds only its builder's;
  * §2: builders whose IDs read back (`Builder.ReadsBack`) build shapes whose
    IDs read back, in order (`Builder.ReadsBack.build`);
  * §3: resolving a valid reference, and the traits a load sets, keep IDs
    valid, so every shape a tidy load with valid IDs builds reads back
    (`Loader.Tidy.built_rereadable`).
-/

namespace ShapeKit

open Json Keyed

/-! ## §1. The IDs a builder binds -/

namespace Builder

/-- The IDs a builder binds: its target, and its operation, resource and
service references. -/
def refIds (b : Builder) : List ShapeId :=
  b.target.toList ++ ((Body.operation b.operation).bindings ++ (Body.resource b.resource).bindings ++
    (Body.service b.service).bindings).map (·.1)

theorem refIds_of_unbound {b : Builder} (h : b.Unbound) : b.refIds = [] := by
  simp [refIds, h.target, h.operation, h.resource, h.serviceOperations, h.serviceResources, Body.bindings,
    ResourceData.lifecycle]

theorem mem_refIds {b : Builder} {y : ShapeId} :
    y ∈ b.refIds ↔ y ∈ b.target ∨ y ∈ b.operation.input ∨ y ∈ b.operation.output ∨ y ∈ b.operation.errors ∨
      (∃ n, (n, y) ∈ b.resource.identifiers) ∨ y ∈ b.resource.create ∨ y ∈ b.resource.read ∨
      y ∈ b.resource.update ∨ y ∈ b.resource.delete ∨ y ∈ b.resource.list ∨
      y ∈ b.resource.operations ∨ y ∈ b.resource.resources ∨ y ∈ b.service.operations ∨
      y ∈ b.service.resources := by
  simp [refIds, Body.bindings, ResourceData.lifecycle, eq_comm, exists_or, or_assoc]

/-- Binding an ID adds it to the IDs a builder binds, and nothing else. -/
theorem apply_refIds (x : Binding) (b : Builder) (t : ShapeId) :
    ∀ y ∈ (x.apply b t).refIds, y = t ∨ y ∈ b.refIds := by
  intro y hy
  rw [mem_refIds] at hy
  rw [mem_refIds]
  cases x with
  -- each binding sets one part of the builder; every other part is as it was
  | identifier n =>
    simp only [Binding.apply, Builder.setIdentifier, ResourceData.putIdentifier_eq] at hy
    rcases hy with h | h | h | h | ⟨n', h⟩ | h | h | h | h | h | h | h | h | h <;> try simp [h]
    rcases Keyed.mem_put h with h | h
    · simp_all
    · exact .inr (.inr (.inr (.inr (.inr (.inl ⟨n', h⟩)))))
  | lifecycle w =>
    simp only [Binding.apply, Builder.setLifecycle] at hy
    split_ifs at hy <;>
      rcases hy with h | h | h | h | h | h | h | h | h | h | h | h | h | h <;> simp_all
  | operation =>
    simp only [Binding.apply, Builder.addOperation] at hy
    split_ifs at hy <;>
      rcases hy with h | h | h | h | h | h | h | h | h | h | h | h | h | h <;> aesop
  | resource =>
    simp only [Binding.apply, Builder.addResource] at hy
    split_ifs at hy <;>
      rcases hy with h | h | h | h | h | h | h | h | h | h | h | h | h | h <;> aesop
  | _ =>
    simp only [Binding.apply, Builder.setTarget, Builder.setInput, Builder.setOutput, Builder.addError] at hy
    rcases hy with h | h | h | h | h | h | h | h | h | h | h | h | h | h <;> aesop

/-- Resolving references binds only the IDs they resolve to. -/
theorem resolveAll_refIds (r : ShapeReference → ShapeId) (b : Builder) (refs : List (ShapeReference × Binding)) :
    ∀ y ∈ (resolveAll r b refs).refIds, y ∈ b.refIds ∨ ∃ x ∈ refs, y = r x.1 := by
  induction refs generalizing b with
  | nil => exact fun y hy => .inl hy
  | cons x rest ih =>
    intro y hy
    rcases ih (x.2.apply b (r x.1)) y hy with hy | ⟨z, hz, rfl⟩
    · rcases apply_refIds x.2 b (r x.1) y hy with rfl | hy
      · exact .inr ⟨x, List.mem_cons_self, rfl⟩
      · exact .inl hy
    · exact .inr ⟨z, List.mem_cons_of_mem _ hz, rfl⟩

/-- Binding keeps a resource's identifiers in name order. -/
theorem apply_identifiers_sorted (x : Binding) {b : Builder} (t : ShapeId)
    (h : Sorted compare Prod.fst b.resource.identifiers) :
    Sorted compare Prod.fst (x.apply b t).resource.identifiers := by
  cases x with
  | identifier n =>
    simp only [Binding.apply, Builder.setIdentifier, ResourceData.putIdentifier_eq]
    exact h.put _
  | lifecycle w =>
    simp only [Binding.apply, Builder.setLifecycle]
    split_ifs <;> exact h
  | operation =>
    simp only [Binding.apply, Builder.addOperation]
    split_ifs <;> exact h
  | resource =>
    simp only [Binding.apply, Builder.addResource]
    split_ifs <;> exact h
  | _ => exact h

theorem resolveAll_identifiers_sorted (r : ShapeReference → ShapeId) {b : Builder}
    (h : Sorted compare Prod.fst b.resource.identifiers) (refs : List (ShapeReference × Binding)) :
    Sorted compare Prod.fst (resolveAll r b refs).resource.identifiers := by
  induction refs generalizing b with
  | nil => exact h
  | cons x rest ih => exact ih (apply_identifiers_sorted x.2 _ h)

/-- The data of an operation, resource, service or member body is the builder's. -/
theorem bodyFor_data {b : Builder} {id : ShapeId} {body : Body} (h : b.bodyFor id = .ok body) :
    (∀ op, body = .operation op → op = b.operation) ∧ (∀ r, body = .resource r → r = b.resource) ∧
      (∀ sv, body = .service sv → sv = b.service) ∧ (∀ t, body = .member t → b.target = some t) := by
  unfold bodyFor at h
  cases ht : b.type <;> simp only [ht] at h
  case list | set =>
    obtain ⟨_, -, hb⟩ := Except.bind_eq_ok.mp h
    simp only [Except.pure_eq_ok] at hb
    subst hb
    simp
  case map =>
    obtain ⟨_, -, hb⟩ := Except.bind_eq_ok.mp h
    obtain ⟨_, -, hb⟩ := Except.bind_eq_ok.mp hb
    simp only [Except.pure_eq_ok] at hb
    subst hb
    simp
  case member =>
    split at h
    · next t ht =>
      simp only [Except.pure_eq_ok] at h
      subst h
      simp [ht]
    · cases h
  all_goals
    simp only [Except.pure_eq_ok] at h
    subst h
    simp

/-- A built shape binds only IDs its builder binds. -/
theorem build_bindings {b : Builder} {s : Shape} (h : b.build = .ok s) :
    ∀ x ∈ s.body.bindings, x.1 ∈ b.refIds := by
  obtain ⟨-, id, -, -, -, body, hbody, rfl⟩ := build_eq_ok.mp h
  obtain ⟨hop, hres, hsvc, -⟩ := bodyFor_data hbody
  intro x hx
  rw [refIds, List.mem_append]
  cases body with
  | operation op =>
    rw [hop op rfl] at hx
    exact .inr (List.mem_map_of_mem (List.mem_append_left _ (List.mem_append_left _ hx)))
  | resource r =>
    rw [hres r rfl] at hx
    exact .inr (List.mem_map_of_mem (List.mem_append_left _ (List.mem_append_right _ hx)))
  | service sv =>
    rw [hsvc sv rfl] at hx
    exact .inr (List.mem_map_of_mem (List.mem_append_right _ hx))
  | _ => simp [Body.bindings] at hx

/-- A built member's target is one its builder binds. -/
theorem build_target {b : Builder} {s : Shape} (h : b.build = .ok s) : ∀ t ∈ s.target, t ∈ b.refIds := by
  obtain ⟨-, id, -, -, -, body, hbody, rfl⟩ := build_eq_ok.mp h
  intro t ht
  cases body with
  | member t' =>
    simp only [Shape.target, Option.mem_def, Option.some.injEq] at ht
    subst ht
    rw [refIds, (bodyFor_data hbody).2.2.2 _ rfl]
    exact List.mem_append_left _ (by simp)
  | _ => simp [Shape.target] at ht

end Builder

/-! ## §2. Builders whose IDs read back -/

/-- A built shape whose own ID, target and trait IDs read back, with its traits
in ID order: what a collected member must be. -/
structure Shape.PartsValid (x : Shape) : Prop where
  id : x.id.Valid
  target : ∀ t ∈ x.target, t.Valid
  traits : ∀ t ∈ x.traits, t.id.Valid
  sorted : Sorted ShapeId.compare Trait.id x.traits

/-- A built member as its container's body holds it reads back. -/
theorem Shape.PartsValid.asMember {x : Shape} (hx : x.PartsValid) :
    (Builder.asMember x).id.Valid ∧ (Builder.asMember x).target.Valid ∧
      (∀ t ∈ (Builder.asMember x).traits, t.id.Valid) ∧ Sorted ShapeId.compare Trait.id (Builder.asMember x).traits := by
  refine ⟨hx.id, ?_, hx.traits, hx.sorted⟩
  show (x.target.getD x.id).Valid
  cases ht : x.target with
  | none => exact hx.id
  | some t => exact hx.target t ht

/-- A builder all of whose IDs read back: its own, those it binds, its traits'
and its collected members', with its traits and a resource's identifiers in
order. -/
structure Builder.ReadsBack (b : Builder) : Prop where
  id : ∀ x ∈ b.id, x.Valid
  refs : ∀ y ∈ b.refIds, y.Valid
  traits : ∀ t ∈ b.traits, t.id.Valid
  sorted : Sorted ShapeId.compare Trait.id b.traits
  identifiers : Sorted compare Prod.fst b.resource.identifiers
  members : ∀ x ∈ b.members, x.PartsValid

namespace Builder.ReadsBack

variable {b : Builder}

/-- A fresh declaration's builder reads back when its ID does. -/
theorem of_unbound (hid : ∀ x ∈ b.id, x.Valid) (hu : b.Unbound) (ht : b.traits = []) (hm : b.members = []) :
    b.ReadsBack where
  id := hid
  refs := by simp [refIds_of_unbound hu]
  traits := by simp [ht]
  sorted := ht ▸ List.Pairwise.nil
  identifiers := by rw [hu.resource]; exact List.Pairwise.nil
  members := by simp [hm]

/-- Resolving references to IDs that read back keeps a builder reading back. -/
theorem resolveAll (hb : b.ReadsBack) {r : ShapeReference → ShapeId} {refs : List (ShapeReference × Binding)}
    (hr : ∀ x ∈ refs, (r x.1).Valid) : (ShapeKit.resolveAll r b refs).ReadsBack where
  id := by rw [resolveAll_id]; exact hb.id
  refs y hy := by
    rcases resolveAll_refIds r b refs y hy with hy | ⟨x, hx, rfl⟩
    · exact hb.refs y hy
    · exact hr x hx
  traits := by rw [resolveAll_traits]; exact hb.traits
  sorted := by rw [resolveAll_traits]; exact hb.sorted
  identifiers := resolveAll_identifiers_sorted r hb.identifiers refs
  members := by rw [resolveAll_members]; exact hb.members

/-- Setting traits that read back, in order, keeps a builder reading back. -/
theorem traitsBy (hb : b.ReadsBack) {F : ShapeId → TraitMap}
    (hF : ∀ X, (∀ t ∈ F X, t.id.Valid) ∧ Sorted ShapeId.compare Trait.id (F X)) : (b.traitsBy F).ReadsBack := by
  unfold Builder.traitsBy
  split
  · exact ⟨hb.id, hb.refs, (hF _).1, (hF _).2, hb.identifiers, hb.members⟩
  · exact hb

/-- Putting a member that reads back keeps a builder reading back. -/
theorem pushMember (hb : b.ReadsBack) {m : Shape} (hm : m.PartsValid) : (b.pushMember m).ReadsBack := by
  unfold Builder.pushMember
  split
  · refine ⟨hb.id, hb.refs, hb.traits, hb.sorted, hb.identifiers, fun x hx => ?_⟩
    obtain ⟨y, hy, rfl⟩ := List.mem_map.mp hx
    split
    · exact hm
    · exact hb.members y hy
  · refine ⟨hb.id, hb.refs, hb.traits, hb.sorted, hb.identifiers, fun x hx => ?_⟩
    rcases List.mem_append.mp hx with hx | hx
    · exact hb.members x hx
    · rw [List.mem_singleton.mp hx]
      exact hm

/-- A builder that reads back builds to a shape whose own parts read back. -/
theorem build_partsValid (hb : b.ReadsBack) {s : Shape} (h : b.build = .ok s) : s.PartsValid := by
  obtain ⟨-, id, hid, -, -, body, -, rfl⟩ := build_eq_ok.mp h
  exact ⟨hb.id id hid, fun t ht => hb.refs t (build_target h t ht), hb.traits, hb.sorted⟩

/-- **A builder that reads back builds to a shape whose IDs read back, with its
parts in order.** -/
theorem build (hb : b.ReadsBack) {s : Shape} (h : b.build = .ok s) :
    s.id.Valid ∧ (∀ x ∈ s.body.bindings, x.1.Valid) ∧
      (∀ m ∈ s.body.members, m.id.Valid ∧ m.target.Valid ∧ ∀ t ∈ m.traits, t.id.Valid) ∧
      (∀ t ∈ s.traits, t.id.Valid) ∧ s.Ordered := by
  have hparts := hb.build_partsValid h
  obtain ⟨-, id, -, -, -, body, hbody, rfl⟩ := build_eq_ok.mp h
  obtain ⟨-, -, sub, hsub, hbm, -, -⟩ := bodyFor_spec hbody
  -- each member of the body is a collected member as its container holds it
  have hmembers : ∀ m ∈ body.members, ∃ y ∈ b.members, m = asMember y := by
    intro m hm
    rw [hbm] at hm
    obtain ⟨y, hy, rfl⟩ := List.mem_map.mp hm
    exact ⟨y, hsub y hy, rfl⟩
  refine ⟨hparts.id, fun x hx => hb.refs _ (build_bindings h x hx), fun m hm => ?_, hb.traits,
    ⟨hb.sorted, fun m hm => ?_, fun r hr => ?_⟩⟩
  · obtain ⟨y, hy, rfl⟩ := hmembers m hm
    obtain ⟨hid, htarget, htraits, -⟩ := (hb.members y hy).asMember
    exact ⟨hid, htarget, htraits⟩
  · obtain ⟨y, hy, rfl⟩ := hmembers m hm
    exact (hb.members y hy).asMember.2.2.2
  · rw [(bodyFor_data hbody).2.1 r hr]
    exact hb.identifiers

end Builder.ReadsBack

/-- Building members that read back and putting them one by one keeps a
builder reading back. -/
theorem foldlM_pushBuilt_readsBack {ms : List PendingMember} (hms : ∀ m ∈ ms, m.builder.ReadsBack)
    {b b' : Builder} (hb : b.ReadsBack)
    (h : ms.foldlM (fun b m => do return b.pushMember (← m.builder.build)) b = .ok b') : b'.ReadsBack := by
  induction ms generalizing b with
  | nil =>
    simp only [List.foldlM_nil, Except.pure_eq_ok] at h
    exact h ▸ hb
  | cons m rest ih =>
    simp only [List.foldlM_cons, Except.bind_eq_ok, Except.pure_eq_ok] at h
    obtain ⟨b₁, ⟨s, hs, rfl⟩, hrest⟩ := h
    have hm := (hms m List.mem_cons_self).build_partsValid hs
    exact ih (fun m' hm' => hms m' (List.mem_cons_of_mem _ hm')) (hb.pushMember hm) hrest

/-- A declaration whose builders read back builds to a shape whose IDs read
back, with its parts in order. -/
theorem PendingShape.build_readsBack {p : PendingShape} (hp : p.builder.ReadsBack)
    (hms : ∀ m ∈ p.members, m.builder.ReadsBack) {s : Shape} (h : p.build = .ok s) :
    s.id.Valid ∧ (∀ x ∈ s.body.bindings, x.1.Valid) ∧
      (∀ m ∈ s.body.members, m.id.Valid ∧ m.target.Valid ∧ ∀ t ∈ m.traits, t.id.Valid) ∧
      (∀ t ∈ s.traits, t.id.Valid) ∧ s.Ordered := by
  unfold PendingShape.build at h
  obtain ⟨b', hfold, hbuild⟩ := Except.bind_eq_ok.mp h
  exact (foldlM_pushBuilt_readsBack hms hp hfold).build hbuild

/-! ## §3. The shapes a load builds read back -/

/-- An ID a valid trait name denotes is valid. -/
theorem ShapeReference.Denotes.valid {r : ShapeReference} {Y : ShapeId} (hd : r.Denotes Y) (hr : r.Valid) :
    Y.Valid := by
  cases r with
  | resolved id => exact hd ▸ hr
  | deferred e =>
    rcases hd with rfl | hY
    · exact hr
    · exact ShapeId.valid_ofRelative hY

/-- The traits a factory creates from a table's row are kept in ID order. -/
theorem TraitFactory.createdFrom_sorted (factory : TraitFactory) (table : Loader.TraitTable) (T : ShapeId) :
    Sorted ShapeId.compare Trait.id (factory.createdFrom table T) := by
  -- each created trait is inserted in its place
  suffices ∀ (row : List (ShapeId × Node × SourceLocation)) (m : TraitMap), Sorted ShapeId.compare Trait.id m →
      Sorted ShapeId.compare Trait.id (row.foldl factory.addCreated m) from
    this _ [] List.Pairwise.nil
  intro row
  induction row with
  | nil => exact fun _ hm => hm
  | cons x rest ih =>
    intro m hm
    apply ih
    unfold TraitFactory.addCreated
    split
    · rw [TraitMap.insert_eq]
      exact hm.put _
    · exact hm

namespace Loader

variable {l : Loader}

/-- Resolving a valid reference gives a valid ID: itself, or the prelude ID of
its name. -/
theorem resolveRef_valid (l : Loader) {r : ShapeReference} (hr : r.Valid) : (l.resolveRef r).Valid := by
  cases r with
  | resolved id => exact hr
  | deferred e =>
    rw [resolveRef_deferred l hr]
    split_ifs
    · exact hr
    · exact ShapeId.valid_ofRelative (ShapeId.ofRelative_prelude hr)
    · exact hr

/-- The traits a load sets on a declared ID read back, in ID order: each is
named by a trait application of the load. -/
theorem IdsValid.createdFrom (hv : l.IdsValid) (T : ShapeId) :
    (∀ t ∈ l.factory.createdFrom l.collected.2 T, t.id.Valid) ∧
      Sorted ShapeId.compare Trait.id (l.factory.createdFrom l.collected.2 T) := by
  refine ⟨fun t ht => ?_, TraitFactory.createdFrom_sorted _ _ T⟩
  have hsome : ((l.factory.createdFrom l.collected.2 T).get? t.id).isSome :=
    List.find?_isSome.mpr ⟨t, ht, by simp⟩
  obtain ⟨-, q, hq, -, hname⟩ := applied_of_createdFrom hsome
  exact (resolveTraitName_eq_some hname).2.valid (hv.traits q hq).2

end Loader

/-- A declaration as a load makes it, resolved to valid IDs and with traits
that read back set, has builders that read back. -/
theorem PendingShape.IdsValid.readsBack {p : PendingShape} {C : ShapeId} (hv : p.IdsValid) (ht : p.Tidy C)
    {r : ShapeReference → ShapeId} (hr : ∀ x : ShapeReference, x.Valid → (r x).Valid) {F : ShapeId → TraitMap}
    (hF : ∀ X, (∀ t ∈ F X, t.id.Valid) ∧ Sorted ShapeId.compare Trait.id (F X)) :
    ((p.resolve r).setTraits F).builder.ReadsBack ∧ ∀ m ∈ ((p.resolve r).setTraits F).members, m.builder.ReadsBack := by
  refine ⟨?_, fun m hm => ?_⟩
  · exact ((Builder.ReadsBack.of_unbound hv.id hv.unbound ht.traitless ht.unbuilt).resolveAll
      fun x hx => hr x.1 (hv.refs x hx)).traitsBy hF
  · simp only [PendingShape.setTraits, PendingShape.resolve, List.map_map, List.mem_map, Function.comp_apply] at hm
    obtain ⟨m₀, hm₀, rfl⟩ := hm
    have hmv := hv.members m₀ hm₀
    exact ((Builder.ReadsBack.of_unbound hmv.id hmv.unbound (ht.member_traitless m₀ hm₀)
      (ht.member_unbuilt m₀ hm₀)).resolveAll fun x hx => hr x.1 (hmv.refs x hx)).traitsBy hF

namespace Loader

variable {l : Loader}

/-- **Every shape a tidy load with valid IDs builds reads back from its written
entry, with its parts in order.** -/
theorem Tidy.built_rereadable (hl : l.Tidy) (hv : l.IdsValid) {s : Shape} (hs : s ∈ l.finalized.buildShapes.1) :
    s.Rereadable ∧ s.Ordered := by
  obtain ⟨e, he, p, hp, hb⟩ := mem_buildShapes hs
  obtain ⟨hid, hC, -, -, hwf⟩ := hl.build_finalized he hp hb
  -- the declaration is one of the load's, resolved and with its traits set
  rw [hl.finalized.1] at he
  obtain ⟨e₁, he₁, rfl⟩ := List.mem_map.mp he
  obtain ⟨p₁, hp₁, rfl⟩ := List.mem_map.mp hp
  rw [resolved_shapes] at he₁
  obtain ⟨e₀, he₀, rfl⟩ := List.mem_map.mp he₁
  obtain ⟨p₀, hp₀, rfl⟩ := List.mem_map.mp hp₁
  obtain ⟨hbuilder, hmembers⟩ := (hv.decls e₀ he₀ p₀ hp₀).readsBack (hl.decls.entries e₀ he₀ p₀ hp₀)
    (fun x hx => l.resolveRef_valid hx) hv.createdFrom
  obtain ⟨hidv, hbind, hmem, htraits, hord⟩ := PendingShape.build_readsBack hbuilder hmembers hb
  have hnot : s.isMember = false := by
    rw [← hwf.id_isMember, hid]
    exact hC
  exact ⟨⟨hwf, hnot, hidv, hbind, hmem, htraits⟩, hord⟩

end Loader

end ShapeKit
