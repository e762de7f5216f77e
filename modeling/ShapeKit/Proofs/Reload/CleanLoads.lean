import ShapeKit.Proofs.Reload.LoadedShapes
import ShapeKit.Proofs.Reload.RoundTrip

/-!
# A clean load reads back from its document

A run of loads into a fresh loader finishes cleanly when finishing reports no
event. Then every declaration builds, and the model it finishes to is one that
reads back from its document (`Model.Layered.reload`):

  * §1: loads keep the trait factory, and on a finish with no error every
    declaration builds, to the first build of its ID or to a shape equal to it
    (`Loader.builds_of_finish_events`);
  * §2: a build keeps a member under the ID of every member declared, so every
    declared ID is the ID of a built shape or of one of its members
    (`Loader.Tidy.built_of_declared`);
  * §3: the traits a built shape writes are settled: their values are runs of
    values coerced by the types the written shapes have
    (`Loader.Tidy.settled_of_mem_createdFrom`);
  * §4: with plain trait definitions, every trait a built shape writes is
    defined in its document (`Loader.Tidy.traitsDefined`);
  * §5: so the model a clean tidy load finishes to is one that reads back
    (`Loader.Tidy.reloadable`); `Loader.loadAll_reload` puts it to work on a
    run of loads into a fresh loader.
-/

namespace ShapeKit

open Json Keyed

/-! ## §1. Clean finishes -/

namespace Loader

theorem onMetadata_factory (l : Loader) (key : String) (value : Node) (source : SourceLocation) :
    (l.onMetadata key value source).factory = l.factory := by
  unfold Loader.onMetadata
  split
  · rfl
  · split
    · rfl
    · split <;> rfl

/-- Loading never changes the trait factory. -/
theorem factory_loadInvariant (f : TraitFactory) : LoadInvariant fun l => l.factory = f where
  frame h hs := hs.factory.trans h
  onMetadata h key value source := (onMetadata_factory _ key value source).trans h
  onShape {l p _} h _ _ := by
    rcases onShape_sameDecls_or_put l p with hs | ⟨id, -, -, heq⟩
    · exact hs.factory.trans h
    · rw [heq]
      exact h

/-- Declarations that add no event each build, to the first build of their
run or to a shape equal to it. -/
theorem definitionEvents_eq_nil {id : ShapeId} {past ps : List PendingShape}
    (h : definitionEvents id past ps = []) :
    ∀ p ∈ ps, ∃ s, p.build = .ok s ∧ ∃ f, firstBuild (past ++ ps) = some f ∧ (f = s ∨ f.equal s = true) := by
  induction ps generalizing past with
  | nil => exact fun p hp => absurd hp List.not_mem_nil
  | cons q rest ih =>
    rw [definitionEvents, List.append_eq_nil_iff] at h
    intro p hp
    rcases List.mem_cons.mp hp with rfl | hp
    · have hq : definitionEvent id (firstBuild past) p = none := by simpa using h.1
      obtain ⟨s, hs, hfirst⟩ := definitionEvent_eq_none_iff.mp hq
      refine ⟨s, hs, ?_⟩
      -- the first build of the run is an earlier one, or this one
      cases hf : firstBuild past with
      | none =>
        refine ⟨s, ?_, .inl rfl⟩
        rw [← List.singleton_append, ← List.append_assoc, firstBuild_append, firstBuild_append, hf,
          firstBuild_singleton, hs]
        rfl
      | some f =>
        refine ⟨f, ?_, .inr (hfirst f hf)⟩
        rw [firstBuild_append, hf]
        rfl
    · have := ih h.2 p hp
      rwa [List.append_assoc, List.singleton_append] at this

/-- A declaration's event is an error: a failed build or a differing duplicate. -/
theorem definitionEvent_severity {id : ShapeId} {first : Option Shape} {p : PendingShape} {ev : Event}
    (h : definitionEvent id first p = some ev) : ev.severity = .error := by
  unfold definitionEvent at h
  split at h
  · cases h
    rfl
  · split at h
    · cases h
    · cases h
      rfl
  · cases h

/-- Every event a run of declarations adds is an error. -/
theorem definitionEvents_severity {id : ShapeId} :
    ∀ {past ps : List PendingShape}, ∀ ev ∈ definitionEvents id past ps, ev.severity = .error
  | _, [], _, h => by cases h
  | past, p :: rest, ev, h => by
    rw [definitionEvents, List.mem_append] at h
    rcases h with h | h
    · exact definitionEvent_severity (Option.mem_toList.mp h)
    · exact definitionEvents_severity ev h

/-- On a finish with no error, every declaration builds, to the first build
of its ID or to a shape equal to it. -/
theorem builds_of_finish_events {l : Loader} (herr : ∀ ev ∈ l.finish.events, ev.severity ≠ .error)
    {e : ShapeId × List PendingShape} (he : e ∈ l.finalized.shapes) {p : PendingShape} (hp : p ∈ e.2) :
    ∃ s, p.build = .ok s ∧ ∃ f, firstBuild e.2 = some f ∧ (f = s ∨ f.equal s = true) := by
  -- the events of `e`'s declarations are among the finish's, and all errors
  have hnil : definitionEvents e.1 [] e.2 = [] := by
    refine List.eq_nil_iff_forall_not_mem.mpr fun ev hev => herr ev ?_ (definitionEvents_severity ev hev)
    rw [finish_eq, buildShapes_spec, List.mem_append, List.mem_flatMap]
    exact .inr ⟨e, he, hev⟩
  exact definitionEvents_eq_nil hnil p hp

end Loader

/-! ## §2. Declared members are built -/

theorem ShapeType.mem_fixedMembers {t : ShapeType} {names : List String} (hf : t.fixedMembers = some names)
    {n : String} (h : Builder.memberAllowed t n = true) : n ∈ names ∧ n ≠ "" := by
  cases t <;> simp only [ShapeType.fixedMembers, Option.some.injEq, reduceCtorEq] at hf <;> subst hf <;>
    simp_all [Builder.memberAllowed]
  -- a map's names are `key` and `value`
  rcases h with rfl | rfl <;> simp

/-- Pointwise equal members have the same IDs. -/
theorem Member.equalList_ids : ∀ {as bs : List Member}, Member.equalList as bs = true →
    as.map (·.id) = bs.map (·.id)
  | [], [], _ => rfl
  | a :: as, b :: bs, h => by
    simp only [Member.equalList, Member.equal, Bool.and_eq_true, beq_iff_eq] at h
    rw [List.map_cons, List.map_cons, h.1.1.1, Member.equalList_ids h.2]
  | [], _ :: _, h | _ :: _, [], h => by simp [Member.equalList] at h

/-- Equal bodies have members under the same IDs, in order. -/
theorem Body.memberIds_of_equal {x y : Body} (h : x.equal y = true) :
    x.members.map (·.id) = y.members.map (·.id) := by
  have hm : ∀ a b : Member, a.equal b = true → a.id = b.id := fun a b hab => by
    simp only [Member.equal, Bool.and_eq_true, beq_iff_eq] at hab
    exact hab.1.1
  unfold Body.equal at h
  split at h
  · rfl
  · simp [Body.members, hm _ _ h]
  · simp [Body.members, hm _ _ h]
  · simp only [Bool.and_eq_true] at h
    simp [Body.members, hm _ _ h.1, hm _ _ h.2]
  · exact Member.equalList_ids h
  · exact Member.equalList_ids h
  · rfl
  · rfl
  · rfl
  · rfl
  · cases h

namespace Builder

/-- Putting a built member keeps a member under every ID there was, and puts
the new one. -/
theorem pushMember_ids (b : Builder) (m : Shape) :
    (∀ y ∈ b.members, ∃ z ∈ (b.pushMember m).members, z.id = y.id) ∧ m ∈ (b.pushMember m).members := by
  unfold pushMember
  split
  · next hany =>
    refine ⟨fun y hy => ⟨if y.id == m.id then m else y, List.mem_map_of_mem hy, ?_⟩, ?_⟩
    · split
      · next h => exact (beq_iff_eq.mp h).symm
      · rfl
    · obtain ⟨x, hx, hxm⟩ := List.any_eq_true.mp hany
      exact List.mem_map.mpr ⟨x, hx, if_pos hxm⟩
  · exact ⟨fun y hy => ⟨y, List.mem_append_left _ hy, rfl⟩, List.mem_append_right _ (List.mem_singleton_self m)⟩

/-- The body a builder builds keeps a member under the ID of every member it
collected: a type with fixed member names accepts only members of those names. -/
theorem build_keeps_members {b : Builder} {s : Shape} (h : b.build = .ok s) :
    ∀ y ∈ b.members, ∃ x ∈ s.body.members, x.id = y.id := by
  obtain ⟨-, id, -, -, hmembers, body, hbody, rfl⟩ := build_eq_ok.mp h
  obtain ⟨-, -, sub, hsub, hbm, hall, hfixed⟩ := bodyFor_spec hbody
  intro y hy
  suffices ∃ z ∈ sub, z.id = y.id by
    obtain ⟨z, hz, hzy⟩ := this
    exact ⟨asMember z, by rw [hbm]; exact List.mem_map_of_mem hz, hzy⟩
  cases hf : b.type.fixedMembers with
  | none => exact ⟨y, hall hf ▸ hy, rfl⟩
  | some names =>
    obtain ⟨-, hyc, hallowed⟩ := checkMember_eq_ok.mp (hmembers y hy)
    obtain ⟨hname, hne⟩ := ShapeType.mem_fixedMembers hf hallowed
    have hsome : y.id.member = some (y.id.member.getD "") := by
      cases hm : y.id.member with
      | none => simp [hm] at hne
      | some n => rfl
    -- a kept member has the name `y` has, and both are members of `id`
    have hkept : some (y.id.member.getD "") ∈ sub.map (·.id.member) := by
      rw [hfixed names hf]
      exact List.mem_map_of_mem hname
    obtain ⟨z, hz, hzn⟩ := List.mem_map.mp hkept
    obtain ⟨-, hzc, -⟩ := checkMember_eq_ok.mp (hmembers z (hsub z hz))
    refine ⟨z, hz, ?_⟩
    rw [Shape.id_eq_of_withoutMember hzc, Shape.id_eq_of_withoutMember hyc, hzn, ← hsome]

end Builder

/-- Building members and putting them one by one keeps a member under every ID
collected before, and puts one under the ID of each member built. -/
theorem foldlM_pushBuilt_ids {ms : List PendingMember} {b b' : Builder}
    (h : ms.foldlM (fun b m => do return b.pushMember (← m.builder.build)) b = .ok b') :
    (∀ y ∈ b.members, ∃ z ∈ b'.members, z.id = y.id) ∧
      ∀ m ∈ ms, ∀ X, m.builder.id = some X → ∃ z ∈ b'.members, z.id = X := by
  induction ms generalizing b with
  | nil =>
    simp only [List.foldlM_nil, Except.pure_eq_ok] at h
    subst h
    exact ⟨fun y hy => ⟨y, hy, rfl⟩, fun m hm => absurd hm List.not_mem_nil⟩
  | cons m rest ih =>
    simp only [List.foldlM_cons, Except.bind_eq_ok, Except.pure_eq_ok] at h
    obtain ⟨b₁, ⟨s, hs, rfl⟩, hrest⟩ := h
    obtain ⟨hkeep, hnew⟩ := ih hrest
    obtain ⟨hpush, hmem⟩ := b.pushMember_ids s
    refine ⟨fun y hy => ?_, fun m' hm' X hX => ?_⟩
    · obtain ⟨z, hz, hzy⟩ := hpush y hy
      obtain ⟨z', hz', hz'z⟩ := hkeep z hz
      exact ⟨z', hz', hz'z.trans hzy⟩
    · rcases List.mem_cons.mp hm' with rfl | hm'
      · -- the member just built sits under its builder's ID
        obtain ⟨z, hz, hzs⟩ := hkeep s hmem
        exact ⟨z, hz, hzs.trans (Option.some.inj ((Builder.build_ids hs).1.symm.trans hX))⟩
      · exact hnew m' hm' X hX

/-- A declaration builds to a shape with a member under the ID of each member
it declares. -/
theorem PendingShape.build_memberIds {p : PendingShape} {s : Shape} (h : p.build = .ok s) :
    ∀ m ∈ p.members, ∀ X, m.builder.id = some X → ∃ x ∈ s.body.members, x.id = X := by
  unfold PendingShape.build at h
  obtain ⟨b', hfold, hbuild⟩ := Except.bind_eq_ok.mp h
  intro m hm X hX
  obtain ⟨z, hz, hzX⟩ := (foldlM_pushBuilt_ids hfold).2 m hm X hX
  obtain ⟨x, hx, hxz⟩ := Builder.build_keeps_members hbuild z hz
  exact ⟨x, hx, hxz.trans hzX⟩

namespace Loader

variable {l : Loader}

/-- The declarations of a tidy load as finishing leaves them: resolved, with
the traits of the collected table set. -/
theorem Tidy.finalized_shapes (hl : l.Tidy) : l.finalized.shapes =
    l.shapes.map fun e => (e.1, e.2.map fun p => (p.resolve l.resolveRef).setTraits
      (l.factory.createdFrom l.collected.2)) := by
  rw [hl.finalized.1, setTraitsAll, resolved_shapes, List.map_map]
  simp only [Function.comp_def, List.map_map]

/-- **On a finish of a tidy load with no error, every declared ID is the ID of
a built shape or of one of its members.** -/
theorem Tidy.built_of_declared (hl : l.Tidy) (herr : ∀ ev ∈ l.finish.events, ev.severity ≠ .error) {T : ShapeId}
    (hT : T ∈ l.declaredIds) : ∃ s ∈ l.finalized.buildShapes.1, s.id = T ∨ ∃ x ∈ s.body.members, x.id = T := by
  rw [declaredIds_eq] at hT
  obtain ⟨e₀, he₀, hT⟩ := List.mem_flatMap.mp hT
  obtain ⟨p₀, hp₀, hT⟩ := List.mem_flatMap.mp hT
  -- the declaration as finishing leaves it builds, and its ID's first build is kept
  have he := List.mem_map_of_mem (f := fun e => (e.1, e.2.map fun p => (p.resolve l.resolveRef).setTraits
      (l.factory.createdFrom l.collected.2))) he₀
  rw [← hl.finalized_shapes] at he
  have hp := List.mem_map_of_mem (f := fun p => (p.resolve l.resolveRef).setTraits
      (l.factory.createdFrom l.collected.2)) hp₀
  obtain ⟨s, hs, f, hf, hfs⟩ := builds_of_finish_events herr he hp
  have hfb : f ∈ l.finalized.buildShapes.1 := by
    rw [buildShapes_spec]
    exact List.mem_filterMap.mpr ⟨_, he, hf⟩
  refine ⟨f, hfb, ?_⟩
  simp only [PendingShape.ids, PendingShape.id, List.mem_append, Option.mem_toList, List.mem_filterMap] at hT
  rcases hT with hT | ⟨m₀, hm₀, hmT⟩
  · -- the declaration's own ID is its entry's, which the first build has
    left
    obtain ⟨q, hq, hqb⟩ := firstBuild_eq_some hf
    rw [(hl.build_finalized he hq hqb).1]
    exact Option.some.inj ((hl.decls.entries e₀ he₀ p₀ hp₀).id.symm.trans hT)
  · -- a member's ID: the build of this declaration has it, and so has the first
    right
    have hm : (⟨(resolveAll l.resolveRef m₀.builder m₀.refs).traitsBy (l.factory.createdFrom l.collected.2),
        []⟩ : PendingMember) ∈ ((p₀.resolve l.resolveRef).setTraits (l.factory.createdFrom l.collected.2)).members := by
      simp only [PendingShape.setTraits, PendingShape.resolve, List.map_map]
      exact List.mem_map_of_mem hm₀
    obtain ⟨x, hx, hxT⟩ := PendingShape.build_memberIds hs _ hm T (by simpa using hmT)
    rcases hfs with rfl | hfs
    · exact ⟨x, hx, hxT⟩
    · simp only [Shape.equal, Bool.and_eq_true] at hfs
      have hids : T ∈ f.body.members.map (·.id) := by
        rw [Body.memberIds_of_equal hfs.1.2]
        exact List.mem_map.mpr ⟨x, hx, hxT⟩
      obtain ⟨x', hx', hx'T⟩ := List.mem_map.mp hids
      exact ⟨x', hx', hx'T⟩

end Loader

/-! ## §3. Settled trait values -/

namespace MergeRun

/-- One more value a coercion keeps leaves a kept value the coercion keeps:
merging joins arrays, and coercion keeps arrays. -/
theorem push_kept_coerced {τ : Option ShapeType} {r : MergeRun} {x : Node × SourceLocation}
    (hr : ∀ k ∈ r.kept, coerceTraitValue k.1 τ = k.1) (hx : coerceTraitValue x.1 τ = x.1) :
    ∀ k ∈ (r.push x).kept, coerceTraitValue k.1 τ = k.1 := by
  unfold push
  split
  · intro k hk
    simp only [Option.mem_def, Option.some.injEq] at hk
    subst hk
    exact hx
  · next prev first hkept =>
    split
    · exact hr
    · split
      · next v hv =>
        intro k hk
        simp only [Option.mem_def, Option.some.injEq] at hk
        subst hk
        unfold combine at hv
        split at hv
        · cases hv
          rfl
        · split at hv
          · cases hv
            exact hr _ hkept
          · cases hv
      · exact hr

theorem foldl_push_kept_coerced {τ : Option ShapeType} {xs : List (Node × SourceLocation)}
    (hxs : ∀ x ∈ xs, coerceTraitValue x.1 τ = x.1) (r : MergeRun) (hr : ∀ k ∈ r.kept, coerceTraitValue k.1 τ = k.1) :
    ∀ k ∈ (xs.foldl push r).kept, coerceTraitValue k.1 τ = k.1 := by
  induction xs generalizing r with
  | nil => exact hr
  | cons x rest ih =>
    exact ih (fun y hy => hxs y (List.mem_cons_of_mem x hy)) _ (push_kept_coerced hr (hxs x List.mem_cons_self))

end MergeRun

namespace Loader

/-- The value a run of applications keeps is one the trait's type keeps: each
application's value is coerced by it. -/
theorem mergeRun_applicationsIn_coerced (l : Loader) (defs : List ShapeId) (items : List PendingTrait)
    (T X : ShapeId) :
    ∀ k ∈ (mergeRun (l.applicationsIn defs items T X)).kept, coerceTraitValue k.1 (l.definitionType X) = k.1 := by
  refine MergeRun.foldl_push_kept_coerced (fun x hx => ?_) _ (fun k hk => by simp at hk)
  obtain ⟨p, -, hp⟩ := List.mem_filterMap.mp hx
  split at hp
  · cases hp
    exact coerceTraitValue_idem _ _
  · cases hp

end Loader

@[simp] theorem Builder.pushMember_type (b : Builder) (m : Shape) : (b.pushMember m).type = b.type := by
  unfold Builder.pushMember
  split <;> rfl

@[simp] theorem Builder.traitsBy_type (f : ShapeId → TraitMap) (b : Builder) : (b.traitsBy f).type = b.type := by
  unfold Builder.traitsBy
  split <;> rfl

theorem foldlM_pushBuilt_type {ms : List PendingMember} {b b' : Builder}
    (h : ms.foldlM (fun b m => do return b.pushMember (← m.builder.build)) b = .ok b') : b'.type = b.type := by
  induction ms generalizing b with
  | nil =>
    simp only [List.foldlM_nil, Except.pure_eq_ok] at h
    rw [h]
  | cons m rest ih =>
    simp only [List.foldlM_cons, Except.bind_eq_ok, Except.pure_eq_ok] at h
    obtain ⟨b₁, ⟨s, -, rfl⟩, hrest⟩ := h
    rw [ih hrest, Builder.pushMember_type]

/-- A declaration builds to a shape of its builder's type. -/
theorem PendingShape.build_type {p : PendingShape} {s : Shape} (h : p.build = .ok s) : s.type = p.builder.type := by
  unfold PendingShape.build at h
  obtain ⟨b', hfold, hbuild⟩ := Except.bind_eq_ok.mp h
  obtain ⟨-, id, -, -, -, body, hbody, rfl⟩ := Builder.build_eq_ok.mp hbuild
  show body.type = _
  rw [(Builder.bodyFor_spec hbody).1, foldlM_pushBuilt_type hfold]

namespace Loader

variable {l : Loader}

/-- **On a clean finish of a tidy load with the prelude, the type of a shape
in the document is the type the load gives its ID**: a written shape has the
type of its ID's first declaration, and any other ID the prelude's type. -/
theorem Tidy.writtenType_finish (hl : l.Tidy) (hp : l.includePrelude = true) (hev : l.finish.events = [])
    (X : ShapeId) : l.finish.model.writtenType X = l.definitionType X := by
  have hk : KeyedDecls l.finalized.shapes := hl.recorded.decls.inPlace (finalized_inPlace hl.recorded.decls)
  have hwritten : l.finish.model.written = l.finalized.buildShapes.1 := (hl.finish_layered hp).filter_declaresBuilt
  have hfind : l.finish.model.written.find? (·.id == X) = (l.finalized.shapes.lookup X).bind firstBuild := by
    rw [hwritten, buildShapes_spec]
    exact find?_firstBuilds hk X
  have hlookup : l.finalized.shapes.lookup X = (l.shapes.lookup X).map
      (List.map fun p => (p.resolve l.resolveRef).setTraits (l.factory.createdFrom l.collected.2)) := by
    rw [hl.finalized_shapes]
    exact lookup_map_snd _ _ X
  unfold Model.writtenType definitionType
  rw [hfind, hlookup]
  cases hX : l.shapes.lookup X with
  | none => simp [hp]
  | some ps =>
    cases ps with
    | nil => simp [hp, firstBuild]
    | cons p rest =>
      -- the first declaration builds, to a shape of its type
      have he : (X, (p :: rest).map fun p => (p.resolve l.resolveRef).setTraits
          (l.factory.createdFrom l.collected.2)) ∈ l.finalized.shapes :=
        mem_of_lookup_eq_some (by rw [hlookup, hX]; rfl)
      obtain ⟨s, hs, -⟩ := builds_of_finish_events (by simp [hev]) he List.mem_cons_self
      have hfirst : firstBuild ((p :: rest).map fun p => (p.resolve l.resolveRef).setTraits
          (l.factory.createdFrom l.collected.2)) = some s := by
        simp [firstBuild, hs, Except.toOption]
      simp only [Option.map_some, Option.bind_some, hfirst, List.head?_cons, PendingShape.build_type hs]
      simp [PendingShape.setTraits, PendingShape.resolve]

/-- **The traits finishing sets are settled on a clean finish**: on a tidy load
with the prelude and the built-in factory, each trait set on an ID has a value
the type of its trait's shape in the document keeps, and one the factory
accepts. -/
theorem Tidy.settled_of_mem_createdFrom (hl : l.Tidy) (hp : l.includePrelude = true)
    (hev : l.finish.events = []) (hf : l.factory = .builtin) {T : ShapeId} {t : Trait}
    (ht : t ∈ l.factory.createdFrom l.collected.2 T) : t.Settled l.finish.model.writtenType .builtin := by
  have hget : (l.factory.createdFrom l.collected.2 T).get? t.id = some t :=
    ((TraitFactory.createdFrom_sorted _ _ T).mem_iff_find? t).mp ht
  have hT : T ∈ l.declaredIds := (applied_of_createdFrom (by rw [hget]; rfl)).1
  rw [createdFrom_collected_get?, if_pos hT] at hget
  -- the trait is created from the value the run of its applications keeps
  obtain ⟨⟨v, src⟩, hkept, hcreate⟩ := Option.bind_eq_some_iff.mp hget
  have hc : l.factory.create t.id v src = .ok t := by
    dsimp only at hcreate
    revert hcreate
    cases l.factory.create t.id v src <;> simp [Except.toOption]
  obtain ⟨hacc, hteq⟩ := TraitFactory.create_eq_ok_iff.mp hc
  have hv : t.value = v := congrArg Trait.value hteq
  refine ⟨?_, ?_⟩
  · rw [hv, hl.writtenType_finish hp hev]
    exact mergeRun_applicationsIn_coerced l _ _ T t.id (v, src) hkept
  · rw [hv, ← hf]
    exact hacc

/-! ## §4. Defined traits -/

/-- The trait applications a built shape writes are the traits finishing sets
on its ID and on its members' IDs. -/
theorem Tidy.mem_traitApps_built (hl : l.Tidy) {s : Shape} (hs : s ∈ l.finalized.buildShapes.1)
    {a : ShapeId × Trait} :
    a ∈ s.traitApps ↔
      (a.1 = s.id ∨ ∃ x ∈ s.body.members, x.id = a.1) ∧ a.2 ∈ l.factory.createdFrom l.collected.2 a.1 := by
  obtain ⟨e, he, p, hp, hb⟩ := mem_buildShapes hs
  obtain ⟨hid, -, htraits, hmembers, -⟩ := hl.build_finalized he hp hb
  -- a member carries the traits set on its ID
  have hx : ∀ x ∈ s.body.members, x.traits = l.factory.createdFrom l.collected.2 x.id := fun x hx =>
    hmembers x.toShape (by rw [Shape.memberShapes_eq]; exact List.mem_map_of_mem hx)
  rw [Shape.mem_traitApps]
  constructor
  · rintro (⟨x, hxm, h1, h2⟩ | ⟨h1, h2⟩)
    · exact ⟨.inr ⟨x, hxm, h1.symm⟩, by rw [h1, ← hx x hxm]; exact h2⟩
    · exact ⟨.inl h1, by rw [h1, hid, ← htraits]; exact h2⟩
  · rintro ⟨h1 | ⟨x, hxm, h1⟩, h2⟩
    · exact .inr ⟨h1, by rw [htraits, ← hid, ← h1]; exact h2⟩
    · exact .inl ⟨x, hxm, h1.symm, by rw [hx x hxm, h1]; exact h2⟩

/-- On a clean finish of a tidy load with plain definitions, the target of an
application naming `trait` is written with `trait`. -/
theorem Tidy.written_of_definesTrait (hl : l.Tidy) (hd : l.PlainDefinitions) (hev : l.finish.events = [])
    {q : PendingTrait} (hq : q ∈ l.traits) (hdef : l.definesTrait q.name = true) :
    (q.target, ShapeId.prelude "trait") ∈ l.finish.model.writtenApps.map fun b => (b.1, b.2.id) := by
  have hX := hd.targets q hq hdef
  -- the trait `trait` is set on the target, from the value its run keeps
  have hne : l.applicationsIn l.definitionIds l.traits q.target (ShapeId.prelude "trait") ≠ [] :=
    (applicationsIn_ne_nil_iff l _ _ _ _).mpr ⟨q, hq, rfl, hd.resolves_of_definesTrait hl hq hdef⟩
  obtain ⟨⟨v, src⟩, hkept⟩ := Option.ne_none_iff_exists'.mp (mergeFrom_kept_ne_none none hne)
  have hget : (l.factory.createdFrom l.collected.2 q.target).get? (ShapeId.prelude "trait") =
      some ⟨ShapeId.prelude "trait", v, src⟩ := by
    rw [createdFrom_collected_get?, if_pos hX, mergeRun, hkept, Option.bind_some,
      TraitFactory.create_eq_ok_iff.mpr ⟨hd.accepted _ v src hkept, rfl⟩]
    rfl
  have hmem := List.mem_of_find?_eq_some hget
  -- the target is written, as a shape or as a member
  obtain ⟨s, hs, hsX⟩ := hl.built_of_declared (by simp [hev]) hX
  have happ : (q.target, (⟨ShapeId.prelude "trait", v, src⟩ : Trait)) ∈ s.traitApps :=
    (hl.mem_traitApps_built hs).mpr ⟨hsX.imp Eq.symm id, hmem⟩
  have hwritten : l.finish.model.written = l.finalized.buildShapes.1 :=
    (hl.finish_layered hd.withPrelude).filter_declaresBuilt
  rw [Model.writtenApps, hwritten]
  exact List.mem_map.mpr ⟨_, List.mem_flatMap.mpr ⟨s, hs, happ⟩, rfl⟩

/-- **Every trait a clean load with plain definitions writes is defined in its
document**: it is `trait` itself, a prelude definition, or a shape or member
the document writes with `trait`. -/
theorem Tidy.traitsDefined (hl : l.Tidy) (hd : l.PlainDefinitions) (hev : l.finish.events = []) :
    l.finish.model.TraitsDefined := by
  have hwritten : l.finish.model.written = l.finalized.buildShapes.1 :=
    (hl.finish_layered hd.withPrelude).filter_declaresBuilt
  intro a ha
  rw [Model.writtenApps, hwritten] at ha
  obtain ⟨s, hs, ha⟩ := List.mem_flatMap.mp ha
  have hcarried := ((hl.mem_traitApps_built hs).mp ha).2
  -- the trait's ID is what an application's name resolves to
  have hsome : ((l.factory.createdFrom l.collected.2 a.1).get? a.2.id).isSome :=
    List.find?_isSome.mpr ⟨a.2, hcarried, by simp⟩
  obtain ⟨-, q, hq, -, hname⟩ := applied_of_createdFrom hsome
  rcases (resolveTraitName_eq_some hname).1 with hdef | htrait
  · rcases hl.mem_definitionIds.mp hdef with ⟨q', hq', hq'def, hX⟩ | ⟨-, hpre⟩
    · exact .inr (.inr (hX ▸ hl.written_of_definesTrait hd hev hq' hq'def))
    · exact .inr (.inl hpre)
  · exact .inl htrait

/-! ## §5. Reading a clean load back -/

/-- **The model a clean tidy load with valid IDs finishes to can be read
back**: its written shapes and metadata are in key order, every written shape
reads back with its parts in order, and every trait value it writes is settled. -/
theorem Tidy.reloadable (hl : l.Tidy) (hv : l.IdsValid) (hp : l.includePrelude = true)
    (hf : l.factory = .builtin) (hev : l.finish.events = []) : l.finish.model.Reloadable := by
  have hM := hl.finish_layered hp
  have hwritten : l.finish.model.written = l.finalized.buildShapes.1 := hM.filter_declaresBuilt
  refine ⟨?_, hM.metadata_sorted, fun s hs => ?_, fun s hs => ?_, fun a ha => ?_⟩
  · rw [hwritten]
    exact hM.sorted
  · rw [hwritten] at hs
    exact (hl.built_rereadable hv hs).1
  · rw [hwritten] at hs
    exact (hl.built_rereadable hv hs).2
  · rw [Model.writtenApps, hwritten] at ha
    obtain ⟨s, hs, ha⟩ := List.mem_flatMap.mp ha
    exact hl.settled_of_mem_createdFrom hp hev hf ((hl.mem_traitApps_built hs).mp ha).2

end Loader

end ShapeKit
