import ShapeKit.Proofs.Reload.CleanLoads

/-!
# Discovered trait definitions agree with the finished model

The loader decides which shapes define traits before it builds any
(`Loader.definitionIds`), and resolves trait names against that list. On a
tidy load with plain definitions (`Loader.PlainDefinitions`) the two agree
with the model it finishes to (`Loader.Tidy.definitions_agree`):

  * §1: on a finish with no error every declared ID is held by the model, as
    a built shape or a member of one;
  * §2: so every trait a declared shape carries is `smithy.api#trait` or a
    shape of the model with the `trait` trait, and no name that denotes such a
    shape is reported as unresolvable. A relative `trait` in a namespace that
    declares a shape named `trait` breaks this: the shape it is given to
    carries the `trait` trait and is no discovered definition, so its ID does
    not resolve (`Loader.shadowed_trait_definition_unresolved`).

A declared definition whose declaration does not build is reported as an
error and is not in the model, while the traits it was given stay applied;
the first part asks for a finish with no error for that reason.
-/

namespace ShapeKit

open Json

namespace Loader

variable {l : Loader}

/-! ## §1. Declared shapes of a finish with no error -/

/-- **On a finish of a tidy load with no error, the model holds every declared
ID**: every declaration builds, and the model holds every build and its members. -/
theorem Tidy.get?_finish_isSome_of_declared (hl : l.Tidy) (hp : l.includePrelude = true)
    (herr : ∀ ev ∈ l.finish.events, ev.severity ≠ .error) {T : ShapeId} (hT : T ∈ l.declaredIds) :
    (l.finish.model.get? T).isSome := by
  obtain ⟨s, hs, hsT⟩ := hl.built_of_declared herr hT
  exact (hl.finish_layered hp).get?_isSome_of_built hs hsT

/-! ## §2. Discovery agrees with the model -/

/-- What a load's trait definitions should be: when finishing reports no
error, every trait a declared shape of the finished model carries is
`smithy.api#trait` or the ID of a shape of the model that carries the `trait`
trait; and an application to a declared shape whose name denotes a shape of
the model with the `trait` trait resolves, so collecting it adds no event but,
at most, a conflict. -/
structure DefinitionsAgree (l : Loader) : Prop where
  carried : (∀ ev ∈ l.finish.events, ev.severity ≠ .error) →
    ∀ T ∈ l.declaredIds, ∀ S, l.finish.model.get? T = some S → ∀ t ∈ S.traits,
      t.id = ShapeId.prelude "trait" ∨
        ∃ D, l.finish.model.get? t.id = some D ∧ D.hasTrait (ShapeId.prelude "trait") = true
  resolves : ∀ p ∈ l.traits, p.target ∈ l.declaredIds → ∀ Y D, p.name.Denotes Y →
    l.finish.model.get? Y = some D → D.hasTrait (ShapeId.prelude "trait") = true →
    ∃ X, resolveTraitName l.definitionIds p.name = some X ∧
      ∀ events table, (l.collectTrait l.definitionIds l.declaredIds (events, table) p).1 = events ∨
        ∃ first, (l.collectTrait l.definitionIds l.declaredIds (events, table) p).1 =
          events ++ [traitConflict X p.target first p.source]

/-- **Discovery agrees with the model on loads with plain definitions**: when
finishing reports no error, every trait a declared shape carries is
`smithy.api#trait` or a shape of the model with the `trait` trait; and no name
that denotes such a shape is reported as unresolvable. -/
theorem Tidy.definitions_agree (hl : l.Tidy) (hd : l.PlainDefinitions) : l.DefinitionsAgree where
  carried herr _ hT _ hS t ht := by
    rcases hl.carried_mem_definitionIds hT hS ht with htrait | hdef
    · exact .inl htrait
    · -- a discovered definition is declared, hence built, or held by the model already
      obtain ⟨hheld, hall⟩ := hd.hasTrait_of_mem_definitionIds hl hdef
      have hsome : (l.finish.model.get? t.id).isSome :=
        hheld.elim (hl.get?_finish_isSome_of_declared hd.withPrelude herr) id
      obtain ⟨D, hD⟩ := Option.isSome_iff_exists.mp hsome
      exact .inr ⟨D, hD, hall D hD⟩
  resolves p _ hdecl _ _ hY hD ht := by
    obtain ⟨X, hres⟩ := resolveTraitName_of_denotes hY (hd.mem_definitionIds_of_hasTrait hl hD ht)
    exact ⟨X, hres, fun events table => collectTrait_events_of_resolves l _ _ events table hdecl hres⟩

/-- A load with no metadata is tidy when its declarations, in ID order, are
each of a builder under its own ID, a shape's outside the prelude namespace,
with no trait and no member. -/
theorem Tidy.of_plain {l : Loader} (hm : l.metadata = []) (hs : Keyed.Sorted ShapeId.compare Prod.fst l.shapes)
    (hp : ∀ e ∈ l.shapes, ∀ p ∈ e.2, p.builder.id = some e.1 ∧ e.1.isMember = false ∧
      p.builder.traits.isEmpty = true ∧ p.builder.members.isEmpty = true ∧ p.members.isEmpty = true)
    (hns : ∀ e ∈ l.shapes, e.1.ns ≠ preludeNamespace) : l.Tidy where
  decls := ⟨hs, fun e he p hpe => by
    obtain ⟨hid, hC, ht, hbm, hpm⟩ := hp e he p hpe
    rw [List.isEmpty_iff] at ht hbm hpm
    exact ⟨hid, hC, ht, hbm, by simp [hpm], by simp [hpm], by simp [hpm], by simp [hpm]⟩⟩
  not_prelude e he h := by
    rw [isPreludeShape_eq_false (hns e he)] at h
    cases h.2
  metadata_sorted := hm ▸ List.Pairwise.nil

/-- A load that defines the custom trait `ns#MyTrait` by a relative `trait`
and gives it by its relative name to `ns#Bar`, as the JSON AST loader leaves
it. -/
def customTraitLoad : Loader where
  shapes :=
    [(⟨"ns", "Bar", none⟩, [⟨{ type := .string, id := some ⟨"ns", "Bar", none⟩, source := ⟨"a.json", 1, 80⟩ }, [], []⟩]),
     (⟨"ns", "MyTrait", none⟩,
      [⟨{ type := .structure, id := some ⟨"ns", "MyTrait", none⟩, source := ⟨"a.json", 1, 20⟩ }, [], []⟩])]
  traits :=
    [⟨⟨"ns", "MyTrait", none⟩, .deferred ⟨"ns", "trait", none⟩, .obj [], ⟨"a.json", 1, 20⟩⟩,
     ⟨⟨"ns", "Bar", none⟩, .deferred ⟨"ns", "MyTrait", none⟩, .obj [], ⟨"a.json", 1, 80⟩⟩]

theorem customTraitLoad_tidy : customTraitLoad.Tidy :=
  Tidy.of_plain rfl (by unfold Keyed.Sorted; decide +kernel) (by decide +kernel) (by decide +kernel)

/-- The custom trait load has plain definitions: its one relative `trait`
meets no declaration, and the one shape it defines is declared. -/
theorem customTraitLoad_plainDefinitions : customTraitLoad.PlainDefinitions := by
  have hl := customTraitLoad_tidy
  have hmine : (⟨"ns", "MyTrait", none⟩ : ShapeId) ∈ customTraitLoad.definitionIds :=
    hl.mem_definitionIds.mpr (.inl ⟨_, List.mem_cons_self, by decide, rfl⟩)
  -- `ns#trait` is declared by no one and given no `trait`
  have hns : (⟨"ns", "trait", none⟩ : ShapeId) ∉ customTraitLoad.definitionIds := by
    intro h
    rcases hl.mem_definitionIds.mp h with ⟨q, hq, hqdef, hqt⟩ | ⟨-, hpre⟩
    · simp only [customTraitLoad, List.mem_cons, List.mem_nil_iff, or_false] at hq
      rcases hq with rfl | rfl
      · exact absurd hqt (by decide)
      · exact absurd hqdef (by decide)
    · exact absurd (preludeDefinitionIds_ns hpre).1 (by decide)
  have hres : resolveTraitName customTraitLoad.definitionIds (.deferred ⟨"ns", "trait", none⟩) =
      some (ShapeId.prelude "trait") :=
    resolveTraitName_relative_trait rfl rfl hns (hl.trait_mem_definitionIds rfl)
  have hres' : resolveTraitName customTraitLoad.definitionIds (.deferred ⟨"ns", "MyTrait", none⟩) =
      some ⟨"ns", "MyTrait", none⟩ := by
    simp [resolveTraitName, hmine]
  refine ⟨rfl, fun p hp e hname hstands => ?_, fun p hp hdef => ?_, fun T v src hkept => ?_⟩
  · simp only [customTraitLoad, List.mem_cons, List.mem_nil_iff, or_false] at hp
    rcases hp with rfl | rfl <;> simp only [ShapeReference.deferred.injEq] at hname <;> subst hname
    · exact ⟨rfl, rfl, by decide⟩
    · exfalso
      have hother : ShapeId.ofRelative preludeNamespace "MyTrait" = .ok ⟨preludeNamespace, "MyTrait", none⟩ := by
        decide +kernel
      rcases hstands with h | h
      · exact absurd h (by decide)
      · rw [show (⟨"ns", "MyTrait", none⟩ : ShapeId).relative = "MyTrait" from rfl, hother] at h
        exact absurd (Except.ok.inj h) (by decide)
  · simp only [customTraitLoad, List.mem_cons, List.mem_nil_iff, or_false] at hp
    rcases hp with rfl | rfl
    · decide
    · exact absurd hdef (by decide)
  · -- only the application of `trait` to `ns#MyTrait` resolves to `trait`
    have happ : customTraitLoad.applicationsIn customTraitLoad.definitionIds customTraitLoad.traits T
        (ShapeId.prelude "trait") =
        if ⟨"ns", "MyTrait", none⟩ = T then
          [(coerceTraitValue (.obj []) (customTraitLoad.definitionType (ShapeId.prelude "trait")), ⟨"a.json", 1, 20⟩)]
        else [] := by
      unfold applicationsIn
      rw [show customTraitLoad.traits =
        [⟨⟨"ns", "MyTrait", none⟩, .deferred ⟨"ns", "trait", none⟩, .obj [], ⟨"a.json", 1, 20⟩⟩,
         ⟨⟨"ns", "Bar", none⟩, .deferred ⟨"ns", "MyTrait", none⟩, .obj [], ⟨"a.json", 1, 80⟩⟩] from rfl]
      simp only [List.filterMap_cons, List.filterMap_nil, hres, hres']
      by_cases hT : (⟨"ns", "MyTrait", none⟩ : ShapeId) = T
      · subst hT
        simp [ShapeId.prelude, preludeNamespace]
      · simp [hT, ShapeId.prelude, preludeNamespace]
    rw [happ] at hkept
    split at hkept
    · cases hkept
      rw [coerceTraitValue_empty_obj]
      exact TraitFactory.accepts_trait_empty _
    · cases hkept

/-- **Witness**: the custom trait load has plain definitions, and discovery
agrees with its model. -/
theorem Tidy.definitions_agree_custom_trait :
    customTraitLoad.Tidy ∧ customTraitLoad.PlainDefinitions ∧ customTraitLoad.DefinitionsAgree :=
  ⟨customTraitLoad_tidy, customTraitLoad_plainDefinitions,
    Tidy.definitions_agree customTraitLoad_tidy customTraitLoad_plainDefinitions⟩

/-- A load in which the relative `trait` given to `ns#Foo` meets a shape
`ns#trait` declared in the same namespace, and `ns#Bar` is given `ns#Foo` by
its absolute ID, as the JSON AST loader leaves it. -/
def shadowedTraitLoad : Loader where
  shapes :=
    [(⟨"ns", "Bar", none⟩, [⟨{ type := .string, id := some ⟨"ns", "Bar", none⟩, source := ⟨"a.json", 1, 121⟩ }, [], []⟩]),
     (⟨"ns", "Foo", none⟩,
      [⟨{ type := .structure, id := some ⟨"ns", "Foo", none⟩, source := ⟨"a.json", 1, 52⟩ }, [], []⟩]),
     (⟨"ns", "trait", none⟩,
      [⟨{ type := .string, id := some ⟨"ns", "trait", none⟩, source := ⟨"a.json", 1, 22⟩ }, [], []⟩])]
  traits :=
    [⟨⟨"ns", "Foo", none⟩, .deferred ⟨"ns", "trait", none⟩, .obj [], ⟨"a.json", 1, 52⟩⟩,
     ⟨⟨"ns", "Bar", none⟩, .resolved ⟨"ns", "Foo", none⟩, .obj [], ⟨"a.json", 1, 121⟩⟩]

theorem shadowedTraitLoad_tidy : shadowedTraitLoad.Tidy :=
  Tidy.of_plain rfl (by unfold Keyed.Sorted; decide +kernel) (by decide +kernel) (by decide +kernel)

/-- Only the prelude's shapes are definitions of the shadowed load: neither of
its applications names `trait` as discovery reads names. -/
theorem shadowedTraitLoad_definitionIds_ns {X : ShapeId} (hX : X ∈ shadowedTraitLoad.definitionIds) :
    X.ns = preludeNamespace := by
  rcases shadowedTraitLoad_tidy.mem_definitionIds.mp hX with ⟨q, hq, hqdef, -⟩ | ⟨-, hpre⟩
  · simp only [shadowedTraitLoad, List.mem_cons, List.mem_nil_iff, or_false] at hq
    rcases hq with rfl | rfl <;> exact absurd hqdef (by decide)
  · exact (preludeDefinitionIds_ns hpre).1

/-- Yet the finished model of the shadowed load holds `ns#Foo` with the `trait`
trait. -/
theorem shadowedTraitLoad_foo_hasTrait : ∃ D, shadowedTraitLoad.finish.model.get? ⟨"ns", "Foo", none⟩ = some D ∧
    D.hasTrait (ShapeId.prelude "trait") = true := by
  have hl := shadowedTraitLoad_tidy
  -- the relative `trait` given to `ns#Foo` is no definition and falls back to the prelude's
  have hres : resolveTraitName shadowedTraitLoad.definitionIds (.deferred ⟨"ns", "trait", none⟩) =
      some (ShapeId.prelude "trait") :=
    resolveTraitName_relative_trait rfl rfl (fun h => absurd (shadowedTraitLoad_definitionIds_ns h) (by decide))
      (hl.trait_mem_definitionIds rfl)
  have happ : shadowedTraitLoad.applicationsIn shadowedTraitLoad.definitionIds shadowedTraitLoad.traits
      ⟨"ns", "Foo", none⟩ (ShapeId.prelude "trait") =
      [(coerceTraitValue (.obj []) (shadowedTraitLoad.definitionType (ShapeId.prelude "trait")),
        ⟨"a.json", 1, 52⟩)] := by
    unfold applicationsIn
    rw [show shadowedTraitLoad.traits =
      [⟨⟨"ns", "Foo", none⟩, .deferred ⟨"ns", "trait", none⟩, .obj [], ⟨"a.json", 1, 52⟩⟩,
       ⟨⟨"ns", "Bar", none⟩, .resolved ⟨"ns", "Foo", none⟩, .obj [], ⟨"a.json", 1, 121⟩⟩] from rfl]
    simp [hres]
  -- the model builds `ns#Foo`, whatever traits it is given, and the run gives it `trait`
  have hmem : ((⟨"ns", "Foo", none⟩ : ShapeId),
      [PendingShape.setTraits (shadowedTraitLoad.factory.createdFrom shadowedTraitLoad.collected.2)
        ⟨{ type := .structure, id := some ⟨"ns", "Foo", none⟩, source := ⟨"a.json", 1, 52⟩ }, [], []⟩]) ∈
      shadowedTraitLoad.finalized.shapes := by
    rw [hl.finalized.1, resolved_shapes]
    exact List.mem_map.mpr ⟨_, List.mem_map.mpr ⟨_, List.mem_cons_of_mem _ List.mem_cons_self, rfl⟩, rfl⟩
  have hget := hl.recorded.get?_finish hmem rfl
  rw [firstBuild_singleton] at hget
  generalize shadowedTraitLoad.factory.createdFrom shadowedTraitLoad.collected.2 = F at hget
  obtain ⟨D, hD⟩ : ∃ D, (PendingShape.setTraits F
      ⟨{ type := .structure, id := some ⟨"ns", "Foo", none⟩, source := ⟨"a.json", 1, 52⟩ }, [], []⟩).build =
      .ok D := ⟨_, rfl⟩
  rw [hD] at hget
  have hdecl : (⟨"ns", "Foo", none⟩ : ShapeId) ∈ shadowedTraitLoad.declaredIds := by decide
  have ht : D.hasTrait (ShapeId.prelude "trait") = true := by
    rw [Shape.hasTrait_iff_getTrait, hl.getTrait_finish_eq_run hdecl hget, happ, coerceTraitValue_empty_obj]
    rw [show (mergeRun [(Node.obj [], (⟨"a.json", 1, 52⟩ : SourceLocation))]).kept =
      some (.obj [], ⟨"a.json", 1, 52⟩) from rfl, Option.bind_some,
      TraitFactory.create_eq_ok_iff.mpr ⟨TraitFactory.accepts_trait_empty _, rfl⟩]
    rfl
  exact ⟨D, hget, ht⟩

/-- **A shadowed `trait` breaks the agreement.** The relative `trait` given to
`ns#Foo` names the declared shape `ns#trait`, so discovery does not count
`ns#Foo` as a definition; yet `ns#trait` is no definition, so the name falls
back to the prelude's `trait` and the model builds `ns#Foo` with the `trait`
trait. The absolute `ns#Foo` given to `ns#Bar` then does not resolve. -/
theorem shadowed_trait_definition_unresolved :
    shadowedTraitLoad.Tidy ∧ ¬ shadowedTraitLoad.DefinitionsAgree := by
  refine ⟨shadowedTraitLoad_tidy, fun h => ?_⟩
  obtain ⟨D, hget, ht⟩ := shadowedTraitLoad_foo_hasTrait
  -- `ns#Foo` is no definition, so the absolute `ns#Foo` given to `ns#Bar` does not resolve
  obtain ⟨X, hnone, -⟩ :=
    h.resolves _ (List.mem_cons_of_mem _ List.mem_cons_self) (by decide) _ D rfl hget ht
  have hskip : (⟨"ns", "Foo", none⟩ : ShapeId) ∉ shadowedTraitLoad.definitionIds :=
    fun h => absurd (shadowedTraitLoad_definitionIds_ns h) (by decide)
  simp [resolveTraitName, hskip, ShapeId.prelude, preludeNamespace] at hnone

end Loader

end ShapeKit
