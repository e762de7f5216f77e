import ShapeKit.Proofs.TraitApply
import ShapeKit.Proofs.References
import ShapeKit.Proofs.ModelMembers

/-!
# The traits of a finished load

On a tidy loader (`Loader.Tidy`), the shape `finish` puts in the model under a
declared ID carries exactly the traits the factory creates from that ID's row
of the collected table:

  * resolving references keeps declarations tidy, and changes neither the
    trait definitions nor their types (§1);
  * finishing traits sets every ID's traits from its row and adds only the
    events of the values the factory refuses (`Loader.Tidy.finalized`, §2);
  * a declaration with its traits set builds to a shape, and members, carrying
    the traits of their IDs (`PendingShape.Tidy.build_setTraits`, §3);
  * a declared ID is not a prelude shape, so the model's shape under it is one
    of those builds (`Loader.Tidy.getTrait_finish`, §4), and its value of a
    trait is the run of that trait's applications to the ID, when the factory
    accepts it (`Loader.Tidy.getTrait_finish_eq_run`).
-/

namespace ShapeKit

open Json

/-! ## §1. Resolving keeps declarations tidy -/

section Bind

variable (x : Binding) (b : Builder) (t : ShapeId)

@[simp] theorem Binding.apply_id : (x.apply b t).id = b.id := by
  cases x <;> simp only [Binding.apply]
  case operation => unfold Builder.addOperation; split <;> rfl
  case resource => unfold Builder.addResource; split <;> rfl
  all_goals rfl

@[simp] theorem Binding.apply_members : (x.apply b t).members = b.members := by
  cases x <;> simp only [Binding.apply]
  case operation => unfold Builder.addOperation; split <;> rfl
  case resource => unfold Builder.addResource; split <;> rfl
  all_goals rfl

end Bind

/-- A part of a builder that every binding keeps is kept by resolving. -/
theorem resolveAll_keeps {α : Type} (g : Builder → α) (hg : ∀ x b t, g (Binding.apply x b t) = g b)
    (resolve : ShapeReference → ShapeId) (b : Builder) (refs : List (ShapeReference × Binding)) :
    g (resolveAll resolve b refs) = g b := by
  induction refs generalizing b with
  | nil => rfl
  | cons e rest ih =>
    obtain ⟨r, x⟩ := e
    exact (ih _).trans (hg x b (resolve r))

@[simp] theorem resolveAll_id (resolve : ShapeReference → ShapeId) (b : Builder)
    (refs : List (ShapeReference × Binding)) : (resolveAll resolve b refs).id = b.id :=
  resolveAll_keeps Builder.id (Binding.apply_id) resolve b refs

@[simp] theorem resolveAll_traits (resolve : ShapeReference → ShapeId) (b : Builder)
    (refs : List (ShapeReference × Binding)) : (resolveAll resolve b refs).traits = b.traits :=
  resolveAll_keeps Builder.traits (Binding.apply_traits) resolve b refs

@[simp] theorem resolveAll_members (resolve : ShapeReference → ShapeId) (b : Builder)
    (refs : List (ShapeReference × Binding)) : (resolveAll resolve b refs).members = b.members :=
  resolveAll_keeps Builder.members (Binding.apply_members) resolve b refs

@[simp] theorem resolveAll_type (resolve : ShapeReference → ShapeId) (b : Builder)
    (refs : List (ShapeReference × Binding)) : (resolveAll resolve b refs).type = b.type :=
  resolveAll_keeps Builder.type (Binding.apply_type) resolve b refs

/-- Resolving a tidy declaration's references leaves it tidy. -/
theorem PendingShape.Tidy.resolve {p : PendingShape} {C : ShapeId} (hp : p.Tidy C)
    (r : ShapeReference → ShapeId) : (p.resolve r).Tidy C where
  id := by simp [PendingShape.resolve, hp.id]
  not_member := hp.not_member
  traitless := by simp [PendingShape.resolve, hp.traitless]
  unbuilt := by simp [PendingShape.resolve, hp.unbuilt]
  member_ids m hm := by
    obtain ⟨m₀, hm₀, rfl⟩ := List.mem_map.mp hm
    simpa using hp.member_ids m₀ hm₀
  member_ids_nodup := by simpa [PendingShape.resolve, Function.comp_def] using hp.member_ids_nodup
  member_traitless m hm := by
    obtain ⟨m₀, hm₀, rfl⟩ := List.mem_map.mp hm
    simpa using hp.member_traitless m₀ hm₀
  member_unbuilt m hm := by
    obtain ⟨m₀, hm₀, rfl⟩ := List.mem_map.mp hm
    simpa using hp.member_unbuilt m₀ hm₀

namespace Loader

variable {l : Loader}

theorem resolved_shapes (l : Loader) :
    l.resolved.shapes = l.shapes.map fun e => (e.1, e.2.map (PendingShape.resolve l.resolveRef)) := rfl

theorem Tidy.resolved (hl : l.Tidy) : TidyDecls l.resolved.shapes where
  sorted := by
    rw [resolved_shapes]
    exact List.pairwise_map.mpr hl.decls.sorted
  entries e he p hp := by
    rw [resolved_shapes] at he
    obtain ⟨e₀, he₀, rfl⟩ := List.mem_map.mp he
    obtain ⟨p₀, hp₀, rfl⟩ := List.mem_map.mp hp
    exact (hl.decls.entries e₀ he₀ p₀ hp₀).resolve _

theorem resolved_definitionType (l : Loader) (id : ShapeId) :
    l.resolved.definitionType id = l.definitionType id := by
  unfold definitionType
  rw [resolved_shapes, lookup_map_snd]
  cases l.shapes.lookup id with
  | none => rfl
  | some es =>
    cases es with
    | nil => rfl
    | cons p _ => simp [PendingShape.resolve]

theorem resolved_definitionIds (l : Loader) : l.resolved.definitionIds = l.definitionIds := by
  unfold definitionIds
  dsimp only
  rw [resolved_shapes, List.filterMap_map]
  congr 2
  · refine List.filterMap_congr fun e _ => ?_
    obtain ⟨id, _ | ⟨p, _⟩⟩ := e <;> simp [PendingShape.resolve]
  · refine List.filterMap_congr fun p _ => ?_
    simp [lookup_map_snd]

theorem resolved_collectTrait (l : Loader) : l.resolved.collectTrait = l.collectTrait := by
  funext defs declared acc item
  simp only [collectTrait, resolved_definitionType]
  rfl

theorem resolved_applicationsIn (l : Loader) : l.resolved.applicationsIn = l.applicationsIn := by
  funext defs items target traitId
  simp only [applicationsIn, resolved_definitionType]

/-! ## §2. Finishing traits -/

/-- The events a load finds collecting its trait applications, and the table
of the values it collects. -/
def collected (l : Loader) : List Event × TraitTable :=
  l.traits.foldl (l.collectTrait l.definitionIds l.declaredIds) (l.events, [])

/-- The collected table holds, for each declared ID and each trait, the run of
the trait's applications to the ID. -/
theorem tableOf_collected (l : Loader) : TableOf l l.definitionIds l.declaredIds l.traits l.collected.2 :=
  TableOf.foldl l.traits l.events

/-- On a tidy loader, finishing traits gives every ID the traits the factory
creates from its row of the collected table, and adds to the collected events
only those of the values the factory refuses. -/
theorem Tidy.finalized (hl : l.Tidy) :
    l.finalized.shapes = setTraitsAll (l.factory.createdFrom l.collected.2) l.resolved.shapes ∧
      l.finalized.events =
        l.collected.1 ++ l.collected.2.flatMap (fun e => e.2.flatMap (l.factory.refusal e.1)) := by
  have h := finalizeTraits_setTraits hl.resolved l.declaredIds
  rw [resolved_collectTrait, resolved_definitionIds] at h
  exact h

theorem finalized_baseModel (l : Loader) : l.finalized.baseModel = l.baseModel := by
  obtain ⟨s, e, h⟩ := l.finalized_frame
  rw [h]
  rfl

end Loader

/-! ## §3. Building declarations with their traits set -/

namespace Builder

@[simp] theorem pushMember_id (b : Builder) (m : Shape) : (b.pushMember m).id = b.id := by
  unfold pushMember
  split <;> rfl

@[simp] theorem pushMember_traits (b : Builder) (m : Shape) : (b.pushMember m).traits = b.traits := by
  unfold pushMember
  split <;> rfl

@[simp] theorem traitsBy_members (f : ShapeId → TraitMap) (b : Builder) : (b.traitsBy f).members = b.members := by
  unfold traitsBy
  split <;> rfl

/-- The collected members carry the traits `F` gives their IDs. -/
def MembersBy (F : ShapeId → TraitMap) (b : Builder) : Prop := ∀ x ∈ b.members, x.traits = F x.id

theorem MembersBy.pushMember {F : ShapeId → TraitMap} {b : Builder} {m : Shape} (hb : b.MembersBy F)
    (hm : m.traits = F m.id) : (b.pushMember m).MembersBy F := by
  unfold MembersBy Builder.pushMember
  split
  · intro x hx
    obtain ⟨y, hy, rfl⟩ := List.mem_map.mp hx
    split
    · exact hm
    · exact hb y hy
  · intro x hx
    rcases List.mem_append.mp hx with hx | hx
    · exact hb x hx
    · rw [List.mem_singleton.mp hx]
      exact hm

/-- A builder without collected members, with an ID, builds to a well-formed
shape of that ID carrying the builder's traits. -/
theorem build_of_unbuilt {b : Builder} {s : Shape} (hb : b.members = []) (h : b.build = .ok s) :
    (∃ x, b.id = some x ∧ s.id = x) ∧ s.traits = b.traits ∧ s.WellFormed := by
  obtain ⟨-, id, hid, -, -, body, -, rfl⟩ := build_eq_ok.mp h
  exact ⟨⟨id, hid, rfl⟩, rfl, build_wellFormed ⟨by simp [hb], by simp [hb]⟩ h⟩

end Builder

/-- Building the members of a declaration and putting them one by one keeps
the builder valid with its own ID and traits, and every member put carries the
traits `F` gives its ID. -/
theorem foldlM_pushBuilt {F : ShapeId → TraitMap} {ms : List PendingMember}
    (hms : ∀ m ∈ ms, m.builder.members = [] ∧ ∀ x, m.builder.id = some x → m.builder.traits = F x)
    {b b' : Builder} (hb : b.Valid) (hF : b.MembersBy F)
    (h : ms.foldlM (fun b m => do return b.pushMember (← m.builder.build)) b = .ok b') :
    b'.Valid ∧ b'.MembersBy F ∧ b'.id = b.id ∧ b'.traits = b.traits := by
  induction ms generalizing b with
  | nil =>
    simp only [List.foldlM_nil, Except.pure_eq_ok] at h
    subst h
    exact ⟨hb, hF, rfl, rfl⟩
  | cons m rest ih =>
    simp only [List.foldlM_cons, Except.bind_eq_ok, Except.pure_eq_ok] at h
    obtain ⟨b₁, ⟨s, hs, rfl⟩, hrest⟩ := h
    obtain ⟨hunbuilt, htraits⟩ := hms m List.mem_cons_self
    obtain ⟨⟨x, hx, hsx⟩, hst, hswf⟩ := Builder.build_of_unbuilt hunbuilt hs
    have hsF : s.traits = F s.id := by rw [hst, hsx, htraits x hx]
    obtain ⟨hv, hF', hid, htr⟩ := ih (fun m' hm' => hms m' (List.mem_cons_of_mem _ hm'))
      (hb.pushMember hswf) (hF.pushMember hsF) hrest
    exact ⟨hv, hF', by rw [hid, Builder.pushMember_id], by rw [htr, Builder.pushMember_traits]⟩

/-- A tidy declaration with its traits set by `F` builds, when it builds, to a
well-formed shape under its container ID carrying the traits `F` gives that
ID, whose members carry the traits `F` gives theirs. -/
theorem PendingShape.Tidy.build_setTraits {p : PendingShape} {C : ShapeId} (hp : p.Tidy C)
    (F : ShapeId → TraitMap) {s : Shape} (h : (p.setTraits F).build = .ok s) :
    s.id = C ∧ s.traits = F C ∧ (∀ M ∈ s.memberShapes, M.traits = F M.id) ∧ s.WellFormed := by
  unfold PendingShape.build at h
  obtain ⟨b', hfold, hbuild⟩ := Except.bind_eq_ok.mp h
  have hstart : (p.setTraits F).builder = { p.builder with traits := F C } := by
    simp only [PendingShape.setTraits, Builder.traitsBy_of_id hp.id]
  -- the members start unbuilt, under their own IDs, with the traits `F` gives them
  have hms : ∀ m ∈ (p.setTraits F).members,
      m.builder.members = [] ∧ ∀ x, m.builder.id = some x → m.builder.traits = F x := by
    intro m hm
    obtain ⟨m₀, hm₀, rfl⟩ := List.mem_map.mp hm
    refine ⟨by simpa using hp.member_unbuilt m₀ hm₀, fun x hx => ?_⟩
    simp only [Builder.traitsBy_id] at hx
    simp [Builder.traitsBy_of_id hx]
  obtain ⟨hv, hF, hid, htr⟩ := foldlM_pushBuilt hms
    (⟨by simp [hstart, hp.unbuilt], by simp [hstart, hp.unbuilt]⟩ : (p.setTraits F).builder.Valid)
    (fun x hx => by simp [hstart, hp.unbuilt] at hx) hfold
  obtain ⟨-, id, hb'id, -, -, body, hbody, rfl⟩ := Builder.build_eq_ok.mp hbuild
  have hC : id = C := by
    rw [hid, hstart] at hb'id
    exact Option.some.inj (hb'id.symm.trans hp.id)
  subst hC
  refine ⟨rfl, by rw [htr, hstart], ?_, Builder.build_wellFormed hv hbuild⟩
  -- the members of the shape are some of those collected
  intro M hM
  obtain ⟨-, -, sub, hsub, hbm, -, -⟩ := Builder.bodyFor_spec hbody
  rw [Shape.memberShapes_eq] at hM
  simp only [hbm, List.map_map, List.mem_map, Function.comp_apply] at hM
  obtain ⟨x, hx, rfl⟩ := hM
  exact hF x (hsub x hx)

/-! ## §4. The shapes of the finished model -/

/-- A property of builders that every step of a fold keeps holds at its end. -/
theorem Builder.foldl_keeps {α : Type} (P : Builder → Prop) (f : Builder → α → Builder)
    (hf : ∀ b x, P b → P (f b x)) : ∀ (xs : List α) (b : Builder), P b → P (xs.foldl f b)
  | [], _, hb => hb
  | x :: xs, b, hb => Builder.foldl_keeps P f hf xs (f b x) (hf b x hb)

@[simp] theorem Builder.fail_id (b : Builder) (e : ShapeError) : (b.fail e).id = b.id := by
  unfold Builder.fail
  split <;> rfl

@[simp] theorem Builder.memberWith_id (b : Builder) (name : String) (target : ShapeId)
    (configure : Builder → Builder) : (b.memberWith name target configure).id = b.id := by
  unfold Builder.memberWith
  split
  · simp
  · split
    · simp
    · dsimp only
      split <;> simp

/-- A prelude shape's builder is valid and has the prelude ID of its name. -/
theorem preludeShape_spec (t : ShapeType) (name : String) (members : List (String × String × Bool))
    (traits : List Trait) :
    (preludeShape t name members traits).Valid ∧
      (preludeShape t name members traits).id = some (ShapeId.prelude name) := by
  unfold preludeShape
  dsimp only
  -- adding traits keeps the members and the ID, and so does adding a member
  let P : Builder → Prop := fun b => b.Valid ∧ b.id = some (ShapeId.prelude name)
  refine Builder.foldl_keeps P Builder.addTrait (fun b _ h => ⟨h.1.of_members_eq rfl, h.2⟩) _ _ ?_
  refine Builder.foldl_keeps P _ ?_ _ _ ?_
  · rintro b ⟨m, target, required⟩ h
    refine ⟨BuilderCall.valid_memberWith h.1 fun c hc => ?_, by simp [h.2]⟩
    split
    · exact hc.of_members_eq rfl
    · exact hc
  · exact ⟨(Builder.new_valid t).of_members_eq rfl, rfl⟩

@[simp] theorem preludeShape_valid (t : ShapeType) (name : String) (members : List (String × String × Bool))
    (traits : List Trait) : (preludeShape t name members traits).Valid :=
  (preludeShape_spec t name members traits).1

@[simp] theorem preludeShape_id (t : ShapeType) (name : String) (members : List (String × String × Bool))
    (traits : List Trait) : (preludeShape t name members traits).id = some (ShapeId.prelude name) :=
  (preludeShape_spec t name members traits).2

@[simp] theorem Builder.new_setId_valid (t : ShapeType) (id : ShapeId) : ((Builder.new t).setId id).Valid :=
  (Builder.new_valid t).of_members_eq rfl

@[simp] theorem Builder.setId_id (b : Builder) (id : ShapeId) : (b.setId id).id = some id := rfl

@[simp] theorem ShapeId.prelude_isMember (name : String) : (ShapeId.prelude name).isMember = false := rfl

/-- Every prelude builder is valid and declares a shape, not a member. -/
theorem preludeBuilders_spec : ∀ b ∈ preludeBuilders, b.Valid ∧ ∀ id, b.id = some id → id.isMember = false := by
  simp [preludeBuilders, simplePreludeShapes]

/-- The prelude is indexed and owns its members. -/
theorem prelude_consistent : prelude.Indexed ∧ prelude.Owned := by
  refine Model.insertShapes_consistent ?_ Model.indexed_empty Model.owned_empty
  intro s hs
  obtain ⟨b, hb, hbs⟩ := List.mem_filterMap.mp hs
  have hbuild : b.build = .ok s := by
    cases h : b.build <;> simp_all [Except.toOption]
  obtain ⟨hv, hid⟩ := preludeBuilders_spec b hb
  have hwf := Builder.build_wellFormed hv hbuild
  obtain ⟨-, id, hbid, -, -, body, -, rfl⟩ := Builder.build_eq_ok.mp hbuild
  exact ⟨hwf, by rw [← hwf.id_isMember]; exact hid id hbid⟩

/-- The prelude holds nothing under an ID whose container is not a prelude shape. -/
theorem prelude_get?_eq_none {k : ShapeId} (hk : isPreludeShape k.withoutMember = false) :
    prelude.get? k = none := by
  have hc : prelude.get? k.withoutMember = none := by
    unfold isPreludeShape Model.contains at hk
    rw [Model.get?, List.find?_eq_none]
    intro s hs h
    have hany : (prelude.shapes.any fun x => x.id == k.withoutMember) = true :=
      List.any_eq_true.mpr ⟨s, hs, h⟩
    rw [hk] at hany
    cases hany
  by_cases hm : k.isMember
  · exact Model.Owned.get?_eq_none prelude_consistent.1 prelude_consistent.2 hm hc
  · rwa [ShapeId.withoutMember_eq_self (by simpa using hm)] at hc

theorem Model.get?_insertShapes_eq_some {m : Model} {ss : List Shape} (hss : ∀ s ∈ ss, s.WellFormed)
    {k : ShapeId} {S : Shape} (h : (m.insertShapes ss).get? k = some S) :
    m.get? k = some S ∨ ∃ s ∈ ss, S = s ∨ S ∈ s.memberShapes := by
  induction ss generalizing m with
  | nil => exact .inl h
  | cons s rest ih =>
    rcases ih (fun x hx => hss x (List.mem_cons_of_mem _ hx)) h with h | ⟨x, hx, hS⟩
    · rcases Model.get?_insertShape_eq_some (hss s List.mem_cons_self) h with ⟨-, rfl⟩ | hS | ⟨-, -, hS⟩
      · exact .inr ⟨S, List.mem_cons_self, .inl rfl⟩
      · exact .inr ⟨s, List.mem_cons_self, .inr hS⟩
      · exact .inl hS
    · exact .inr ⟨x, List.mem_cons_of_mem _ hx, hS⟩

namespace Loader

variable {l : Loader}

/-- The build a run of declarations of one ID keeps is one of their builds. -/
theorem foldl_buildStep_kept {id : ShapeId} {ps : List PendingShape} {acc : Option Shape × List Event}
    {S : Shape} (h : (ps.foldl (buildStep id) acc).1 = some S) :
    acc.1 = some S ∨ ∃ p ∈ ps, p.build = .ok S := by
  induction ps generalizing acc with
  | nil => exact .inl h
  | cons p rest ih =>
    rcases ih h with h' | ⟨q, hq, hb⟩
    · -- kept before the rest: by this declaration, or before it
      unfold buildStep at h'
      split at h'
      · exact .inl h'
      · next s hs =>
        split at h'
        · simp only [Option.some.injEq] at h'
          exact .inr ⟨p, List.mem_cons_self, h' ▸ hs⟩
        · split at h'
          · exact .inl h'
          · exact .inl h'
    · exact .inr ⟨q, List.mem_cons_of_mem _ hq, hb⟩

/-- Every shape `buildShapes` gives is a build of one of the declarations. -/
theorem mem_buildShapes {S : Shape} (h : S ∈ l.buildShapes.1) :
    ∃ e ∈ l.shapes, ∃ p ∈ e.2, p.build = .ok S := by
  rw [buildShapes_eq] at h
  suffices ∀ (es : List (ShapeId × List PendingShape)) (acc : List Shape × List Event),
      S ∈ (es.foldl buildEntries acc).1 → S ∈ acc.1 ∨ ∃ e ∈ es, ∃ p ∈ e.2, p.build = .ok S by
    rcases this l.shapes _ h with h | h
    · cases h
    · exact h
  intro es
  induction es with
  | nil => exact fun _ h => .inl h
  | cons e rest ih =>
    intro acc h
    rcases ih _ h with h | ⟨e', he', hp⟩
    · -- from the kept build of the first ID, or before it
      simp only [buildEntries, List.mem_append] at h
      rcases h with h | h
      · exact .inl h
      · rcases foldl_buildStep_kept (Option.mem_toList.mp h) with h | h
        · cases h
        · exact .inr ⟨e, List.mem_cons_self, h⟩
    · exact .inr ⟨e', List.mem_cons_of_mem _ he', hp⟩

/-- The model `finish` starts from holds nothing under an ID whose container
is not a prelude shape it includes. -/
theorem baseModel_get?_eq_none (l : Loader) {k : ShapeId}
    (hk : ¬(l.includePrelude = true ∧ isPreludeShape k.withoutMember = true)) : l.baseModel.get? k = none := by
  unfold baseModel
  split
  · next hp =>
    rw [Model.get?_addModel _ _ prelude_consistent.1.sorted, prelude_get?_eq_none (by simpa [hp] using hk)]
    rfl
  · rfl

theorem foldl_putMetadata_shapes (entries : List (String × Node × SourceLocation)) (m : Model) :
    (entries.foldl (fun m (e : String × Node × SourceLocation) => m.putMetadata e.1 e.2.1) m).shapes =
      m.shapes := by
  induction entries generalizing m with
  | nil => rfl
  | cons e rest ih => exact ih _

/-- The finished model holds the builds of the declarations over the model it
starts from; putting the metadata leaves them. -/
theorem finish_get? (l : Loader) (k : ShapeId) :
    l.finish.model.get? k = (l.baseModel.insertShapes l.finalized.buildShapes.1).get? k := by
  rw [finish_eq]
  unfold Model.get?
  rw [foldl_putMetadata_shapes, finalized_baseModel]

/-- A declared ID of a tidy loader is the ID of one of its containers, or of a
member of one. -/
theorem Tidy.container_of_mem_declaredIds (hl : l.Tidy) {T : ShapeId} (hT : T ∈ l.declaredIds) :
    ∃ e ∈ l.shapes, e.1 = T.withoutMember := by
  rw [declaredIds_eq] at hT
  obtain ⟨e, he, hT⟩ := List.mem_flatMap.mp hT
  obtain ⟨p, hp, hT⟩ := List.mem_flatMap.mp hT
  have hpt := hl.decls.entries e he p hp
  refine ⟨e, he, ?_⟩
  simp only [PendingShape.ids, PendingShape.id, List.mem_append, List.mem_filterMap] at hT
  rcases hT with hT | ⟨m, hm, hmT⟩
  · rw [hpt.id, Option.toList_some, List.mem_singleton] at hT
    subst hT
    exact (ShapeId.withoutMember_eq_self hpt.not_member).symm
  · obtain ⟨x, hx, -, hxC⟩ := hpt.member_ids m hm
    rw [hx, Option.some.injEq] at hmT
    subst hmT
    exact hxC.symm

/-- On a tidy loader, a finished declaration builds to a well-formed shape of
its ID, a shape's and not a member's, carrying, with its members, the traits
created from the collected table. -/
theorem Tidy.build_finalized (hl : l.Tidy) {e : ShapeId × List PendingShape} (he : e ∈ l.finalized.shapes)
    {p : PendingShape} (hp : p ∈ e.2) {s : Shape} (hb : p.build = .ok s) :
    s.id = e.1 ∧ e.1.isMember = false ∧ s.traits = l.factory.createdFrom l.collected.2 e.1 ∧
      (∀ M ∈ s.memberShapes, M.traits = l.factory.createdFrom l.collected.2 M.id) ∧ s.WellFormed := by
  rw [hl.finalized.1] at he
  obtain ⟨e₀, he₀, rfl⟩ := List.mem_map.mp he
  obtain ⟨p₀, hp₀, rfl⟩ := List.mem_map.mp hp
  have hp₀t := hl.resolved.entries e₀ he₀ p₀ hp₀
  obtain ⟨hid, htr, hms, hwf⟩ := hp₀t.build_setTraits _ hb
  exact ⟨hid, hp₀t.not_member, htr, hms, hwf⟩

/-- On a tidy loader, a shape of the finished model is the one the model
`finish` starts from holds, or carries the traits the factory creates from its
ID's row of the collected table. -/
theorem Tidy.get?_finish_cases (hl : l.Tidy) {T : ShapeId} {S : Shape} (hS : l.finish.model.get? T = some S) :
    l.baseModel.get? T = some S ∨ S.traits = l.factory.createdFrom l.collected.2 T := by
  rw [finish_get?] at hS
  -- every build is well formed and carries, with its members, the traits set
  have hbuilt : ∀ s ∈ l.finalized.buildShapes.1, s.WellFormed ∧
      s.traits = l.factory.createdFrom l.collected.2 s.id ∧
      ∀ M ∈ s.memberShapes, M.traits = l.factory.createdFrom l.collected.2 M.id := by
    intro s hs
    obtain ⟨e, he, p, hp, hb⟩ := mem_buildShapes hs
    obtain ⟨hid, -, htr, hms, hwf⟩ := hl.build_finalized he hp hb
    exact ⟨hwf, by rw [htr, hid], hms⟩
  have hST : S.id = T := Model.id_of_get? hS
  rcases Model.get?_insertShapes_eq_some (fun s hs => (hbuilt s hs).1) hS with hbase | ⟨s, hs, rfl | hM⟩
  · exact .inl hbase
  · exact .inr (by rw [(hbuilt _ hs).2.1, hST])
  · exact .inr (by rw [(hbuilt s hs).2.2 S hM, hST])

/-- **On a tidy loader, the shape the finished model holds under a declared ID
carries the traits the factory creates from the ID's row of the collected
table.** -/
theorem Tidy.getTrait_finish (hl : l.Tidy) {T : ShapeId} (hT : T ∈ l.declaredIds) {S : Shape}
    (hS : l.finish.model.get? T = some S) (X : ShapeId) :
    S.getTrait X = (l.factory.createdFrom l.collected.2 T).get? X := by
  rcases hl.get?_finish_cases hS with hbase | htraits
  · -- the model `finish` starts from holds nothing under a declared ID
    obtain ⟨e, he, hC⟩ := hl.container_of_mem_declaredIds hT
    rw [baseModel_get?_eq_none l (by rw [← hC]; exact hl.not_prelude e he)] at hbase
    cases hbase
  · rw [Shape.getTrait, htraits]

/-- The trait the collected table gives an ID: for a declared ID, the one the
factory creates from the run of the trait's applications to it, each coerced
by the trait's type; for any other ID, none. -/
theorem createdFrom_collected_get? (l : Loader) (T X : ShapeId) :
    (l.factory.createdFrom l.collected.2 T).get? X =
      if T ∈ l.declaredIds then
        (mergeRun (l.applicationsIn l.definitionIds l.traits T X)).kept.bind
          fun p => (l.factory.create X p.1 p.2).toOption
      else none := by
  have htable := l.tableOf_collected
  have hrow := htable.lookup T X
  rw [rowLookup] at hrow
  rw [TraitFactory.createdFrom, TraitFactory.get?_foldl_addCreated _ (htable.row_sorted T).nodup_keys, hrow]
  split <;> simp [TraitMap.get?]

/-- **The value of a trait on a declared ID in the finished model** is the run
of the trait's applications to the ID, each coerced by the trait's type, when
the factory accepts the merged value, and none otherwise. -/
theorem Tidy.getTrait_finish_eq_run (hl : l.Tidy) {T : ShapeId} (hT : T ∈ l.declaredIds) {S : Shape}
    (hS : l.finish.model.get? T = some S) (X : ShapeId) :
    S.getTrait X = (mergeRun (l.applicationsIn l.definitionIds l.traits T X)).kept.bind
      fun p => (l.factory.create X p.1 p.2).toOption := by
  rw [hl.getTrait_finish hT hS, createdFrom_collected_get?, if_pos hT]

end Loader

end ShapeKit
