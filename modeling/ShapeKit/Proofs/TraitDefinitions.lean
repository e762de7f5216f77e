import ShapeKit.Proofs.Reassemble

/-!
# Trait definitions: the ones a load discovers and the ones its model carries

Before it resolves trait names, the loader decides which shapes define traits
(`Loader.definitionIds`): the declared shapes whose first declaration carries
the `trait` trait, the targets of the applications it counts as naming the
`trait` trait (`Loader.definesTrait`), and the prelude's definitions. A name
then resolves against that list (`resolveTraitName`): an absolute name to
itself, a relative one to the shape of its namespace, else to the prelude's.

  * §1: the discovered definitions of a tidy load are the targets of the
    applications naming `trait` and the prelude's definitions, and a name
    resolves only to one of them or to `smithy.api#trait`;
  * §2: a shape the finished model builds carries a trait only through an
    application to its declared ID whose name resolves to that trait;
  * §3: on a load with plain definitions (`Loader.PlainDefinitions`) an
    application counts as naming `trait` exactly when its name resolves to
    `smithy.api#trait`, so the discovered definitions and the shapes that
    carry the `trait` trait are the same.

What follows for the finished model is in `ShapeKit.Proofs.TraitDiscovery`.
-/

namespace ShapeKit

open Json

/-- The IDs a trait name can denote: an absolute name its ID; a relative name
the ID in its own namespace, or the prelude ID of its relative text. -/
def ShapeReference.Denotes : ShapeReference → ShapeId → Prop
  | .resolved id, Y => Y = id
  | .deferred e, Y => Y = e ∨ ShapeId.ofRelative preludeNamespace e.relative = .ok Y

/-- A shape carries a trait when it finds one under the trait's ID. -/
theorem Shape.hasTrait_iff_getTrait (S : Shape) (X : ShapeId) :
    S.hasTrait X = true ↔ (S.getTrait X).isSome := by
  simp [Shape.hasTrait, TraitMap.contains, Shape.getTrait, TraitMap.get?, List.find?_isSome]

/-- A shape the prelude holds is a prelude shape. -/
theorem isPreludeShape_of_get? {X : ShapeId} {S : Shape} (h : prelude.get? X = some S) :
    isPreludeShape X = true := by
  unfold Model.get? at h
  simp only [isPreludeShape, Model.contains, List.any_eq_true, beq_iff_eq]
  exact ⟨S, List.mem_of_find?_eq_some h, beq_iff_eq.mp (List.find?_some (p := fun x : Shape => x.id == X) h)⟩

/-- An empty object is left as it is by every coercion. -/
theorem coerceTraitValue_empty_obj (τ : Option ShapeType) : coerceTraitValue (.obj []) τ = .obj [] := by
  cases τ with
  | none => rfl
  | some t => cases t <;> rfl

/-- Every factory accepts the empty object as a value of the `trait` trait. -/
theorem TraitFactory.accepts_trait_empty (f : TraitFactory) : f.Accepts (ShapeId.prelude "trait") (.obj []) :=
  fun _ => rfl

namespace Loader

/-! ## §1. Discovered definitions -/

/-- Whether discovery counts a trait name as the `trait` trait: the absolute
`smithy.api#trait`, or a relative name whose name is `trait` and whose ID no
declaration has. -/
def definesTrait (l : Loader) : ShapeReference → Bool
  | .resolved id => id == ShapeId.prelude "trait"
  | .deferred e => e.name == (ShapeId.prelude "trait").name && (l.shapes.lookup e).isNone

/-- The IDs of the prelude's trait definitions. -/
def preludeDefinitionIds : List ShapeId := prelude.traitDefinitions.map (·.1)

variable {l : Loader}

/-- **The discovered definitions of a tidy load**: no declaration carries a
trait before the applications are applied, so they are the targets of the
applications that name the `trait` trait and, with the prelude, the prelude's
definitions. -/
theorem Tidy.mem_definitionIds (hl : l.Tidy) {X : ShapeId} :
    X ∈ l.definitionIds ↔ (∃ p ∈ l.traits, l.definesTrait p.name = true ∧ p.target = X) ∨
      (l.includePrelude = true ∧ X ∈ preludeDefinitionIds) := by
  have hdeclared : ∀ e ∈ l.shapes, ∀ p ∈ e.2.head?,
      p.builder.traits.contains (ShapeId.prelude "trait") = false := by
    intro e he p hp
    rw [(hl.decls.entries e he p (List.mem_of_mem_head? hp)).traitless]
    rfl
  unfold definitionIds
  show X ∈ _ ++ l.traits.filterMap (fun p => if l.definesTrait p.name then some p.target else none) ++ _ ↔ _
  simp only [List.mem_append, List.mem_filterMap]
  constructor
  · rintro ((⟨e, he, hX⟩ | ⟨p, hp, hX⟩) | hX)
    · exfalso
      cases hhead : e.2.head? with
      | none => simp [hhead] at hX
      | some p => simp [hhead, hdeclared e he p hhead] at hX
    · split at hX
      · cases hX
        exact .inl ⟨p, hp, ‹_›, rfl⟩
      · cases hX
    · split at hX
      · exact .inr ⟨‹_›, hX⟩
      · cases hX
  · rintro (⟨p, hp, hdef, rfl⟩ | ⟨hpre, hX⟩)
    · exact .inl (.inr ⟨p, hp, by rw [if_pos hdef]⟩)
    · exact .inr (by rw [if_pos hpre]; exact hX)

/-- A trait name resolves to an ID it denotes, and that is a definition or the
`trait` trait. -/
theorem resolveTraitName_eq_some {defs : List ShapeId} {name : ShapeReference} {X : ShapeId}
    (h : resolveTraitName defs name = some X) :
    (X ∈ defs ∨ X = ShapeId.prelude "trait") ∧ name.Denotes X := by
  cases name with
  | resolved id =>
    simp only [resolveTraitName] at h
    split at h
    · next hid =>
      cases h
      exact ⟨by simpa using hid, rfl⟩
    · cases h
  | deferred e =>
    simp only [resolveTraitName] at h
    split at h
    · next he =>
      cases h
      exact ⟨.inl (List.elem_iff.mp he), .inl rfl⟩
    · split at h
      · next hrel =>
        split at h
        · next hp =>
          cases h
          exact ⟨.inl (List.elem_iff.mp hp), .inr hrel⟩
        · cases h
      · cases h

/-- A name that denotes a definition resolves. -/
theorem resolveTraitName_of_denotes {defs : List ShapeId} {name : ShapeReference} {Y : ShapeId}
    (h : name.Denotes Y) (hY : Y ∈ defs) : ∃ X, resolveTraitName defs name = some X := by
  cases name with
  | resolved id =>
    subst h
    exact ⟨Y, resolveTraitName_resolved (.inl hY)⟩
  | deferred e =>
    by_cases he : e ∈ defs
    · exact ⟨e, by simp [resolveTraitName, he]⟩
    · rcases h with rfl | hrel
      · exact absurd hY he
      · exact ⟨Y, by simp [resolveTraitName, he, hrel, hY]⟩

/-- A relative `trait` that is no definition resolves to the prelude's `trait`
trait when that is one. -/
theorem resolveTraitName_relative_trait {defs : List ShapeId} {e : ShapeId} (hname : e.name = "trait")
    (hmember : e.member = none) (he : e ∉ defs) (htrait : ShapeId.prelude "trait" ∈ defs) :
    resolveTraitName defs (.deferred e) = some (ShapeId.prelude "trait") := by
  have hrel : e.relative = "trait" := by simp [ShapeId.relative, hmember, hname]
  have hparse : ShapeId.ofRelative preludeNamespace "trait" = .ok (ShapeId.prelude "trait") := by
    decide +kernel
  simp [resolveTraitName, he, hrel, hparse, htrait]

/-- What the prelude defines: `smithy.api#trait` is a definition, so is every
prelude shape with the `trait` trait (its value reads as a definition), every
definition is a shape of the prelude namespace, not a member, and every
prelude shape is in the prelude namespace. -/
theorem prelude_definitions :
    (preludeDefinitionIds.contains (ShapeId.prelude "trait") &&
      prelude.shapes.all (fun S => !S.hasTrait (ShapeId.prelude "trait") || preludeDefinitionIds.contains S.id) &&
      preludeDefinitionIds.all (fun X => X.ns == preludeNamespace && X.member.isNone) &&
      prelude.shapes.all fun S => S.id.ns == preludeNamespace) = true := by
  decide +kernel

theorem trait_mem_preludeDefinitionIds : ShapeId.prelude "trait" ∈ preludeDefinitionIds := by
  have h := prelude_definitions
  simp only [Bool.and_eq_true] at h
  exact List.elem_iff.mp h.1.1.1

theorem mem_preludeDefinitionIds_of_hasTrait {S : Shape} (hS : S ∈ prelude.shapes)
    (ht : S.hasTrait (ShapeId.prelude "trait") = true) : S.id ∈ preludeDefinitionIds := by
  have h := prelude_definitions
  simp only [Bool.and_eq_true, List.all_eq_true, Bool.or_eq_true, Bool.not_eq_true'] at h
  rcases h.1.1.2 S hS with hno | hmem
  · rw [ht] at hno
    cases hno
  · exact List.elem_iff.mp hmem

/-- A prelude definition is a shape of the prelude namespace, not a member. -/
theorem preludeDefinitionIds_ns {X : ShapeId} (hX : X ∈ preludeDefinitionIds) :
    X.ns = preludeNamespace ∧ X.member = none := by
  have h := prelude_definitions
  simp only [Bool.and_eq_true, List.all_eq_true, beq_iff_eq, Option.isNone_iff_eq_none] at h
  exact h.1.2 X hX

/-- No ID outside the prelude namespace is a prelude shape. -/
theorem isPreludeShape_eq_false {X : ShapeId} (hX : X.ns ≠ preludeNamespace) : isPreludeShape X = false := by
  have h := prelude_definitions
  simp only [Bool.and_eq_true, List.all_eq_true, beq_iff_eq] at h
  simp only [isPreludeShape, Model.contains, List.any_eq_false, beq_iff_eq]
  intro S hS hSX
  exact hX (hSX ▸ h.2 S hS)

/-- A prelude definition is a prelude shape with the `trait` trait. -/
theorem prelude_get?_of_mem_preludeDefinitionIds {X : ShapeId} (hX : X ∈ preludeDefinitionIds) :
    ∃ S, prelude.get? X = some S ∧ S.hasTrait (ShapeId.prelude "trait") = true := by
  obtain ⟨⟨X', d⟩, hd, rfl⟩ := List.mem_map.mp hX
  obtain ⟨S, hS, hSd⟩ := List.mem_filterMap.mp hd
  obtain ⟨hSmem, hSt⟩ := List.mem_filter.mp hS
  -- a definition is read from the value of a shape's `trait` trait, under the shape's ID
  have hid : S.id = X' := by
    split at hSd
    · split at hSd
      · cases hSd
        rfl
      · cases hSd
    · cases hSd
  refine ⟨S, ?_, hSt⟩
  unfold Model.get?
  exact (Model.find?_key_eq_some_iff prelude_consistent.1.sorted.ids_nodup).mpr ⟨hSmem, hid⟩

/-- With the prelude in, the `trait` trait is a discovered definition. -/
theorem Tidy.trait_mem_definitionIds (hl : l.Tidy) (hp : l.includePrelude = true) :
    ShapeId.prelude "trait" ∈ l.definitionIds :=
  hl.mem_definitionIds.mpr (.inr ⟨hp, trait_mem_preludeDefinitionIds⟩)

/-! ## §2. Where the traits of a built shape come from -/

/-- Some application of a trait to a target is pending exactly when one of the
pending applications goes to the target under a name that resolves to the
trait. -/
theorem applicationsIn_ne_nil_iff (l : Loader) (defs : List ShapeId) (items : List PendingTrait)
    (T X : ShapeId) :
    l.applicationsIn defs items T X ≠ [] ↔
      ∃ q ∈ items, q.target = T ∧ resolveTraitName defs q.name = some X := by
  simp [applicationsIn, List.filterMap_eq_nil_iff]

/-- **A trait of a built shape comes from an application**: the collected table
gives an ID a trait only when the ID is declared and an application to it has
a name that resolves to the trait. -/
theorem applied_of_createdFrom {T X : ShapeId}
    (hX : ((l.factory.createdFrom l.collected.2 T).get? X).isSome) :
    T ∈ l.declaredIds ∧ ∃ q ∈ l.traits, q.target = T ∧ resolveTraitName l.definitionIds q.name = some X := by
  rw [createdFrom_collected_get?] at hX
  split at hX
  · next hT =>
    refine ⟨hT, (applicationsIn_ne_nil_iff l _ _ T X).mp fun hnil => ?_⟩
    rw [hnil] at hX
    cases hX
  · cases hX

/-- On a tidy load, every trait a declared shape of the finished model carries
is `smithy.api#trait` or a discovered definition. -/
theorem Tidy.carried_mem_definitionIds (hl : l.Tidy) {T : ShapeId} (hT : T ∈ l.declaredIds) {S : Shape}
    (hS : l.finish.model.get? T = some S) {t : Trait} (ht : t ∈ S.traits) :
    t.id = ShapeId.prelude "trait" ∨ t.id ∈ l.definitionIds := by
  have hsome : ((l.factory.createdFrom l.collected.2 T).get? t.id).isSome := by
    rw [← hl.getTrait_finish hT hS, Shape.getTrait, TraitMap.get?, List.find?_isSome]
    exact ⟨t, ht, beq_self_eq_true _⟩
  obtain ⟨-, q, -, -, hres⟩ := applied_of_createdFrom hsome
  exact (resolveTraitName_eq_some hres).1.symm

/-- With the prelude in, the finished model of a tidy load holds under the ID of
a prelude shape the prelude's shape: no declaration has that ID. -/
theorem Tidy.get?_finish_of_prelude (hl : l.Tidy) (hp : l.includePrelude = true) {X : ShapeId}
    (hX : isPreludeShape X = true) (htop : X.isMember = false) :
    l.finish.model.get? X = prelude.get? X := by
  have hM := hl.finish_layered hp
  have hbuilt : ∀ s ∈ l.finalized.buildShapes.1, ∀ x ∈ s.memberShapes, x.id.withoutMember = s.id :=
    fun s hs x hx => ((hM.built_wf s hs).1.member_id x hx).2
  -- no build has the ID of a prelude shape
  have hnone : l.finalized.buildShapes.1.reverse.find? (·.id == X) = none := by
    refine List.find?_eq_none.mpr fun s hs hsX => ?_
    have hpre := (hM.built_wf s (List.mem_reverse.mp hs)).2.2
    rw [beq_iff_eq.mp hsX, hX] at hpre
    cases hpre
  calc l.finish.model.get? X
      = ((({} : Model).addModel prelude).insertShapes l.finalized.buildShapes.1).get? X := by
        unfold Model.get?
        rw [hM.shapes]
    _ = (({} : Model).addModel prelude).get? X := by
        rw [Model.get?_insertShapes_of_top preludeBase_membersWithin hbuilt htop, hnone, Option.none_or]
    _ = prelude.get? X := by
        rw [Model.get?_addModel _ _ prelude_consistent.1.sorted]
        exact Option.or_none

/-- Collecting an application to a declared shape whose name resolves adds no
event but, at most, one conflict. -/
theorem collectTrait_events_of_resolves (l : Loader) (defs declared : List ShapeId) (events : List Event)
    (table : TraitTable) {p : PendingTrait} {X : ShapeId} (hdecl : p.target ∈ declared)
    (hres : resolveTraitName defs p.name = some X) :
    (l.collectTrait defs declared (events, table) p).1 = events ∨
      ∃ first, (l.collectTrait defs declared (events, table) p).1 =
        events ++ [traitConflict X p.target first p.source] := by
  rw [(l.collectTrait_resolved defs declared events table hdecl hres).2]
  cases MergeRun.dropsAgainst _ _ with
  | none => exact .inl (List.append_nil events)
  | some first => exact .inr ⟨first, rfl⟩

/-- A tidy load declares no shape ID it holds no declarations under. -/
theorem Tidy.not_mem_declaredIds (hl : l.Tidy) {e : ShapeId} (hmember : e.member = none)
    (hlookup : l.shapes.lookup e = none) : e ∉ l.declaredIds := by
  intro hdecl
  obtain ⟨entry, hentry, hC⟩ := hl.container_of_mem_declaredIds hdecl
  exact Keyed.lookup_eq_none_iff.mp hlookup entry hentry
    (hC.trans (ShapeId.withoutMember_eq_self (by simp [ShapeId.isMember, hmember])))

/-! ## §3. Loads with plain definitions -/

/-- A load with plain trait definitions, on which the definitions the loader
discovers are the shapes with the `trait` trait:
  * the prelude is in;
  * a relative trait name that is `trait` by its name, or that reads as
    `smithy.api#trait` in the prelude's namespace, is `trait` itself, with no
    member, in a namespace that declares no shape `trait`;
  * every application that discovery counts as naming `trait` goes to a
    declared ID;
  * the factory accepts the value each run of `trait` values keeps. -/
structure PlainDefinitions (l : Loader) : Prop where
  withPrelude : l.includePrelude = true
  relative : ∀ p ∈ l.traits, ∀ e, p.name = .deferred e →
    (e.name = "trait" ∨ ShapeId.ofRelative preludeNamespace e.relative = .ok (ShapeId.prelude "trait")) →
      e.name = "trait" ∧ e.member = none ∧ l.shapes.lookup e = none
  targets : ∀ p ∈ l.traits, l.definesTrait p.name = true → p.target ∈ l.declaredIds
  accepted : ∀ T v src,
    (mergeRun (l.applicationsIn l.definitionIds l.traits T (ShapeId.prelude "trait"))).kept = some (v, src) →
      l.factory.Accepts (ShapeId.prelude "trait") v

/-- A load whose trait names are all absolute, none of them `smithy.api#trait`,
has plain definitions once the prelude is in: no application names `trait`, so
discovery finds the prelude's definitions only. -/
theorem PlainDefinitions.of_absolute (hp : l.includePrelude = true)
    (hnames : ∀ p ∈ l.traits, ∃ id, p.name = .resolved id ∧ id ≠ ShapeId.prelude "trait") :
    l.PlainDefinitions where
  withPrelude := hp
  relative p hp e hname := by
    obtain ⟨id, hid, -⟩ := hnames p hp
    rw [hid] at hname
    cases hname
  targets p hp hdef := by
    obtain ⟨id, hid, hne⟩ := hnames p hp
    rw [hid] at hdef
    exact absurd (beq_iff_eq.mp hdef) hne
  accepted T v src hkept := by
    -- the run of `trait` values on `T` is empty: no application resolves to `trait`
    have hnil : l.applicationsIn l.definitionIds l.traits T (ShapeId.prelude "trait") = [] := by
      by_contra hne
      obtain ⟨q, hq, -, hres⟩ := (applicationsIn_ne_nil_iff l _ _ _ _).mp hne
      obtain ⟨id, hid, hne⟩ := hnames q hq
      rw [hid] at hres
      have hden : ShapeId.prelude "trait" = id := (resolveTraitName_eq_some hres).2
      exact hne hden.symm
    rw [hnil, mergeRun, mergeFrom_nil] at hkept
    cases hkept

/-- On a load with plain definitions, an application that discovery counts as
naming `trait` resolves to `smithy.api#trait`. -/
theorem PlainDefinitions.resolves_of_definesTrait (hl : l.Tidy) (hd : l.PlainDefinitions)
    {p : PendingTrait} (hp : p ∈ l.traits) (hdef : l.definesTrait p.name = true) :
    resolveTraitName l.definitionIds p.name = some (ShapeId.prelude "trait") := by
  cases hname : p.name with
  | resolved id =>
    rw [hname] at hdef
    rw [beq_iff_eq.mp hdef]
    exact resolveTraitName_resolved (.inr rfl)
  | deferred e =>
    rw [hname] at hdef
    simp only [definesTrait, Bool.and_eq_true, beq_iff_eq, Option.isNone_iff_eq_none] at hdef
    obtain ⟨hn, hmember, hlookup⟩ := hd.relative p hp e hname (.inl hdef.1)
    by_cases he : e ∈ l.definitionIds
    · -- a discovered `e` is declared by no one, so it is the prelude's `trait`
      rcases hl.mem_definitionIds.mp he with ⟨q, hq, hqdef, hqe⟩ | ⟨-, hpre⟩
      · exact absurd (hqe ▸ hd.targets q hq hqdef) (hl.not_mem_declaredIds hmember hlookup)
      · obtain ⟨hns, -⟩ := preludeDefinitionIds_ns hpre
        have hprelude : e = ShapeId.prelude "trait" := by
          rcases e with ⟨ns, name, member⟩
          simp only at hns hn hmember
          subst hns hn hmember
          rfl
        subst hprelude
        simp [resolveTraitName, he]
    · exact resolveTraitName_relative_trait hn hmember he (hl.trait_mem_definitionIds hd.withPrelude)

/-- On a load with plain definitions, an application whose name resolves to
`smithy.api#trait` is one that discovery counts as naming `trait`. -/
theorem PlainDefinitions.definesTrait_of_resolves (hd : l.PlainDefinitions) {p : PendingTrait}
    (hp : p ∈ l.traits) (hres : resolveTraitName l.definitionIds p.name = some (ShapeId.prelude "trait")) :
    l.definesTrait p.name = true := by
  have hden := (resolveTraitName_eq_some hres).2
  cases hname : p.name with
  | resolved id =>
    rw [hname] at hden
    have hid : ShapeId.prelude "trait" = id := hden
    simp [definesTrait, ← hid]
  | deferred e =>
    rw [hname] at hden
    -- the name is `trait`, found as it is or read in the prelude's namespace
    have hstands : e.name = "trait" ∨
        ShapeId.ofRelative preludeNamespace e.relative = .ok (ShapeId.prelude "trait") :=
      hden.imp (fun (he : ShapeId.prelude "trait" = e) => he ▸ rfl) id
    obtain ⟨hn, -, hlookup⟩ := hd.relative p hp e hname hstands
    simp [definesTrait, hn, hlookup, ShapeId.prelude]

/-- **Every discovered definition carries the `trait` trait** on a load with
plain definitions: it is declared or a shape of the finished model, and every
shape the model holds under it carries the `trait` trait. -/
theorem PlainDefinitions.hasTrait_of_mem_definitionIds (hl : l.Tidy) (hd : l.PlainDefinitions)
    {X : ShapeId} (hX : X ∈ l.definitionIds) :
    (X ∈ l.declaredIds ∨ (l.finish.model.get? X).isSome) ∧
      ∀ D, l.finish.model.get? X = some D → D.hasTrait (ShapeId.prelude "trait") = true := by
  rcases hl.mem_definitionIds.mp hX with ⟨q, hq, hqdef, rfl⟩ | ⟨-, hpre⟩
  · -- a target of `trait`: the run of its `trait` values holds the application's
    have hdecl := hd.targets q hq hqdef
    refine ⟨.inl hdecl, fun D hD => ?_⟩
    have hne : l.applicationsIn l.definitionIds l.traits q.target (ShapeId.prelude "trait") ≠ [] :=
      (applicationsIn_ne_nil_iff l _ _ _ _).mpr ⟨q, hq, rfl, hd.resolves_of_definesTrait hl hq hqdef⟩
    obtain ⟨⟨v, src⟩, hkept⟩ := Option.ne_none_iff_exists'.mp (mergeFrom_kept_ne_none none hne)
    have hget := hl.getTrait_finish_eq_run hdecl hD (ShapeId.prelude "trait")
    rw [mergeRun, hkept, Option.bind_some,
      TraitFactory.create_eq_ok_iff.mpr ⟨hd.accepted _ v src hkept, rfl⟩] at hget
    rw [Shape.hasTrait_iff_getTrait, hget]
    rfl
  · -- a prelude definition: the model holds the prelude's shape, which carries it
    obtain ⟨S, hS, ht⟩ := prelude_get?_of_mem_preludeDefinitionIds hpre
    obtain ⟨hns, hmember⟩ := preludeDefinitionIds_ns hpre
    have hget : l.finish.model.get? X = some S := by
      rw [hl.get?_finish_of_prelude hd.withPrelude (isPreludeShape_of_get? hS)
        (by simp [ShapeId.isMember, hmember]), hS]
    refine ⟨.inr (by rw [hget]; rfl), fun D hD => ?_⟩
    rw [hget] at hD
    cases hD
    exact ht

/-- **Every shape with the `trait` trait is a discovered definition** on a load
with plain definitions: a shape the prelude gives is one of the prelude's
definitions, and a built shape has the trait from an application naming
`trait`. -/
theorem PlainDefinitions.mem_definitionIds_of_hasTrait (hl : l.Tidy) (hd : l.PlainDefinitions)
    {Y : ShapeId} {D : Shape} (hD : l.finish.model.get? Y = some D)
    (ht : D.hasTrait (ShapeId.prelude "trait") = true) : Y ∈ l.definitionIds := by
  rcases hl.get?_finish_cases hD with hbase | htraits
  · -- a shape of the prelude
    have hempty : ({} : Model).get? Y = none := rfl
    rw [baseModel, if_pos hd.withPrelude, Model.get?_addModel _ _ prelude_consistent.1.sorted, hempty,
      Option.or_none] at hbase
    have hid : D.id = Y := Model.id_of_get? hbase
    unfold Model.get? at hbase
    exact hl.mem_definitionIds.mpr
      (.inr ⟨hd.withPrelude, hid ▸ mem_preludeDefinitionIds_of_hasTrait (List.mem_of_find?_eq_some hbase) ht⟩)
  · -- a built shape: an application to it resolves to `trait`
    have hsome : ((l.factory.createdFrom l.collected.2 Y).get? (ShapeId.prelude "trait")).isSome := by
      rw [← htraits]
      exact (Shape.hasTrait_iff_getTrait D _).mp ht
    obtain ⟨-, q, hq, rfl, hres⟩ := applied_of_createdFrom hsome
    exact hl.mem_definitionIds.mpr (.inl ⟨q, hq, hd.definesTrait_of_resolves hq hres, rfl⟩)

end Loader

end ShapeKit
