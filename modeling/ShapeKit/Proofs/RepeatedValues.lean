import ShapeKit.Proofs.TidyLoads
import ShapeKit.Proofs.FinishTraits

/-!
# Repeated trait values and metadata in a finished load

A trait given several times to one shape by JSON AST loads, and a metadata key
given several times, end up as the run of their values in the order given
(`MergeRun`): the first value is kept with its place, a later value from that
same known place is skipped, two arrays concatenate, an equal value is
ignored, and a differing value is dropped with one error event that names both
places.

  * after any run of loads, a shape of the finished model carries, for each
    trait, the run of that trait's applications to it, each coerced by the
    trait's type, when the factory accepts the merged value;
  * each application adds the conflict event exactly when its run drops it,
    and finishing adds no other conflict after the collected events;
  * after any run of metadata entries, the finished model holds under each key
    the run of the values given under it, and each entry adds the conflict
    event exactly when its run drops it.

Every step is proved in `MergeRuns` (collecting and merging), `TraitApply`
and `FinishTraits` (applying and building) and `TidyLoads` (what loads keep);
`Loader.loadAll_merges_repeated_values` puts them together.
-/

namespace ShapeKit

open Json

namespace Loader

/-- Finishing keeps every event found before it. -/
theorem events_prefix_finish (l : Loader) : l.events <+: l.finish.events := by
  have hcollect : l.events <+: l.collected.1 :=
    foldl_collectTrait_events l l.definitionIds l.declaredIds l.traits (l.events, [])
  have hfinal : l.collected.1 <+: l.finalized.events := by
    have h := finalizeTraits_events l.resolved l.declaredIds
    rwa [resolved_collectTrait, resolved_definitionIds] at h
  rw [finish_eq]
  exact (hcollect.trans hfinal).trans l.finalized.buildShapes_events

/-- On a tidy loader, the finished events start with the collected events,
followed by the events of the values the factory refuses: applying the values
adds no conflict. -/
theorem Tidy.collected_prefix_finish {l : Loader} (hl : l.Tidy) :
    l.collected.1 ++ l.collected.2.flatMap (fun e => e.2.flatMap (l.factory.refusal e.1)) <+:
      l.finish.events := by
  rw [← hl.finalized.2, finish_eq]
  exact l.finalized.buildShapes_events

/-- What a run of JSON AST loads `docs` and a run of metadata entries `calls`
from `l₀` make of repeated values. -/
structure MergesRepeatedValues (l₀ : Loader) (docs : List (String × String))
    (calls : List (String × Node × SourceLocation)) : Prop where
  /-- A shape of the finished model under a declared ID carries a trait with
  the value and place the run of that trait's applications to the ID keeps,
  each value coerced by the trait's type, whenever the factory accepts it. -/
  trait_value : let l := l₀.loadAll docs
    ∀ T ∈ l.declaredIds, ∀ S, l.finish.model.get? T = some S → ∀ X v src,
      (mergeRun (l.applicationsIn l.definitionIds l.traits T X)).kept = some (v, src) →
      l.factory.Accepts X v → S.getTrait X = some ⟨X, v, src⟩
  /-- Collecting an application of a trait to a declared ID adds one conflict
  error exactly when the run of the earlier applications drops its value, and
  nothing else. -/
  trait_conflict : let l := l₀.loadAll docs
    ∀ done p rest, l.traits = done ++ p :: rest → p.target ∈ l.declaredIds →
      ∀ X, resolveTraitName l.definitionIds p.name = some X →
      ((done ++ [p]).foldl (l.collectTrait l.definitionIds l.declaredIds) (l.events, [])).1 =
        (done.foldl (l.collectTrait l.definitionIds l.declaredIds) (l.events, [])).1 ++
          (((mergeRun (l.applicationsIn l.definitionIds done p.target X)).dropsAgainst
              (coerceTraitValue p.value (l.definitionType X), p.source)).map
            fun first => traitConflict X p.target first p.source).toList
  /-- The collected events, and then only the factory's refusals, start the
  finished events. -/
  trait_events : let l := l₀.loadAll docs
    l.collected.1 ++ l.collected.2.flatMap (fun e => e.2.flatMap (l.factory.refusal e.1)) <+:
      l.finish.events
  /-- The finished model holds under each key the value the run of the values
  given under the key keeps. -/
  metadata_value : ∀ k, (l₀.onMetadataAll calls).finish.model.metadataProperty k =
    (mergeRun (valuesUnder Prod.fst Prod.snd k calls)).kept.map (·.1)
  /-- Each entry adds one conflict error exactly when the run of the earlier
  values under its key drops it, and nothing else. -/
  metadata_conflict : ∀ done c rest, calls = done ++ c :: rest →
    (l₀.onMetadataAll (done ++ [c])).events = (l₀.onMetadataAll done).events ++
      (((mergeRun (valuesUnder Prod.fst Prod.snd c.1 done)).dropsAgainst c.2).map
        fun first => metadataConflict c.1 first c.2.2).toList
  /-- The finished events start with those of the entries. -/
  metadata_events : (l₀.onMetadataAll calls).events <+: (l₀.onMetadataAll calls).finish.events

/-- **Repeated values after loading.** From a loader with no declarations and
no metadata, every run of JSON AST loads merges each trait given to a declared
ID, and every run of metadata entries each key, as the run of their values
does, with one conflict error per value dropped. -/
theorem loadAll_merges_repeated_values (l₀ : Loader) (hs : l₀.shapes = []) (hm : l₀.metadata = [])
    (docs : List (String × String)) (calls : List (String × Node × SourceLocation)) :
    l₀.MergesRepeatedValues docs calls where
  trait_value T hT S hS X v src hkept hacc := by
    rw [((Tidy.of_empty hs hm).loadAll docs).getTrait_finish_eq_run hT hS X, hkept, Option.bind_some,
      TraitFactory.create_eq_ok_iff.mpr ⟨hacc, rfl⟩]
    rfl
  trait_conflict done p _ _ hdecl X hres := collectTrait_conflict_events done p _ hdecl hres
  trait_events := ((Tidy.of_empty hs hm).loadAll docs).collected_prefix_finish
  metadata_value k := by
    have hsorted : Keyed.Sorted compare Prod.fst (l₀.onMetadataAll calls).metadata :=
      onMetadataAll_sorted (hm ▸ List.Pairwise.nil) calls
    rw [metadataProperty_finish hsorted, lookup_onMetadataAll, hm]
    rfl
  metadata_conflict done c _ _ := by
    rw [onMetadataAll_events, hm]
    rfl
  metadata_events := events_prefix_finish _

/-- Two documents, one with a shape `ns#S` tagged twice, the other tagging it
once more, and the metadata key `k` given twice, from a fresh loader. -/
theorem loadAll_merges_repeated_values_tags :
    ({} : Loader).shapes = [] ∧ ({} : Loader).metadata = [] ∧
      ({} : Loader).MergesRepeatedValues
        [("a.json", "\x7b\"smithy\": \"1.0\", \"shapes\": \x7b\"ns#S\": \x7b\"type\": \"string\", \"traits\": \x7b\"tags\": [\"a\"]\x7d\x7d\x7d\x7d"),
         ("b.json", "\x7b\"smithy\": \"1.0\", \"shapes\": \x7b\"ns#S\": \x7b\"type\": \"apply\", \"traits\": \x7b\"tags\": [\"b\"]\x7d\x7d\x7d\x7d")]
        [("k", .arr [.num (.nat 1)], ⟨"a.json", 1, 1⟩), ("k", .arr [.num (.nat 2)], ⟨"b.json", 1, 1⟩)] :=
  ⟨rfl, rfl, loadAll_merges_repeated_values {} rfl rfl _ _⟩

end Loader

end ShapeKit
