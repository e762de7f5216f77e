import Mathlib.Data.List.Induction
import ShapeKit.Proofs.Finish

/-!
# Merging repeated values

A trait given more than once to a shape, and a metadata key given more than
once, are merged value by value in the order given (`MergeRun`): the first
value is kept with its place; a later value from that same known place is
skipped; two arrays concatenate; an equal value is ignored; and a differing
value is dropped, the kept one staying, with one error event naming both
places. This module proves that the loader merges so, key by key:

  * `onMetadata` keeps under each key the run of the values given under that
    key (`lookup_foldl_onMetadata`), and a call adds the conflict event exactly
    when the run drops its value (`foldl_onMetadata_events`); the finished
    model has the kept value (`metadataProperty_finish`);
  * collecting trait applications keeps, for each shape and trait, the run of
    that trait's applications to that shape, each coerced by the trait's type
    (`TableOf.foldl`), and an application adds the conflict event exactly when
    the run drops its value (`collectTrait_conflict_events`).
-/

namespace ShapeKit

open Json

/-! ## §1. Runs of values -/

/-- Values given one after another under one key, as the loader merges them:
the value kept, with the place of the first value, and the places of the
values dropped. -/
structure MergeRun where
  kept : Option (Node × SourceLocation) := none
  dropped : List SourceLocation := []

namespace MergeRun

/-- A later value is skipped when it comes from the known place of the first. -/
def skips (first source : SourceLocation) : Bool := !source.isNone && first == source

/-- Two values merged: arrays concatenate and an equal value leaves the first;
differing values do not merge. -/
def combine : Node → Node → Option Node
  | .arr a, .arr b => some (.arr (a ++ b))
  | p, n => if p.equal n then some p else none

/-- One more value. -/
def push (r : MergeRun) (x : Node × SourceLocation) : MergeRun :=
  match r.kept with
  | none => { r with kept := some x }
  | some (prev, first) =>
    if skips first x.2 then r
    else
      match combine prev x.1 with
      | some v => { r with kept := some (v, first) }
      | none => { r with dropped := r.dropped ++ [x.2] }

/-- The place of the first value, when one more value is dropped. -/
def dropsAgainst (r : MergeRun) (x : Node × SourceLocation) : Option SourceLocation :=
  match r.kept with
  | none => none
  | some (prev, first) => if !skips first x.2 && (combine prev x.1).isNone then some first else none

/-- The loader's merge is `combine`: a merged value, or the first one again for
a duplicate, or nothing for a conflict. -/
theorem combine_eq (p n : Node) : combine p n =
    match mergeTraitValues p n with
    | .merged v => some v
    | .duplicate => some p
    | .conflict => none := by
  by_cases harr : ∃ a b, p = .arr a ∧ n = .arr b
  · obtain ⟨a, b, rfl, rfl⟩ := harr
    rfl
  · -- past two arrays both merges compare the values
    have hc : combine p n = if p.equal n then some p else none := by
      unfold combine
      split
      · exact absurd ⟨_, _, rfl, rfl⟩ harr
      · rfl
    have hm : mergeTraitValues p n = if p.equal n then .duplicate else .conflict := by
      unfold mergeTraitValues
      split
      · exact absurd ⟨_, _, rfl, rfl⟩ harr
      · rfl
    rw [hc, hm]
    split <;> rfl

/-- What one more value does depends on the kept value only. -/
theorem push_kept (r : MergeRun) (x : Node × SourceLocation) :
    (r.push x).kept = (({ kept := r.kept } : MergeRun).push x).kept := by
  rcases r with ⟨_ | ⟨prev, first⟩, dropped⟩
  · rfl
  · simp only [push]
    split
    · rfl
    · split <;> rfl

theorem push_dropped (r : MergeRun) (x : Node × SourceLocation) :
    (r.push x).dropped = r.dropped ++ ((r.dropsAgainst x).map fun _ => x.2).toList := by
  unfold push dropsAgainst
  rcases r with ⟨_ | ⟨prev, first⟩, dropped⟩
  · simp
  · by_cases hs : skips first x.2
    · simp [hs]
    · cases hc : combine prev x.1 <;> simp [hs, hc]

/-- After one more value some value is kept. -/
theorem push_kept_ne_none (r : MergeRun) (x : Node × SourceLocation) : (r.push x).kept ≠ none := by
  unfold push
  rcases r with ⟨_ | ⟨prev, first⟩, dropped⟩
  · simp
  · simp only
    split
    · simp
    · split <;> simp

end MergeRun

/-- The run of a list of values, after a value already kept. -/
def mergeFrom (kept : Option (Node × SourceLocation)) (xs : List (Node × SourceLocation)) :
    MergeRun :=
  xs.foldl MergeRun.push { kept }

/-- The run of a list of values. -/
def mergeRun (xs : List (Node × SourceLocation)) : MergeRun := mergeFrom none xs

@[simp] theorem mergeFrom_nil (kept : Option (Node × SourceLocation)) :
    mergeFrom kept [] = { kept } := rfl

theorem mergeFrom_append_singleton (kept : Option (Node × SourceLocation))
    (xs : List (Node × SourceLocation)) (x : Node × SourceLocation) :
    mergeFrom kept (xs ++ [x]) = (mergeFrom kept xs).push x := by
  simp [mergeFrom, List.foldl_append]

/-- A run of at least one value keeps a value. -/
theorem mergeFrom_kept_ne_none (kept : Option (Node × SourceLocation)) {xs : List (Node × SourceLocation)}
    (hxs : xs ≠ []) : (mergeFrom kept xs).kept ≠ none := by
  obtain ⟨init, x, rfl⟩ := List.eq_nil_or_concat xs |>.resolve_left hxs
  rw [List.concat_eq_append, mergeFrom_append_singleton]
  exact MergeRun.push_kept_ne_none _ x

theorem mergeFrom_append_kept (kept : Option (Node × SourceLocation))
    (xs : List (Node × SourceLocation)) (x : Node × SourceLocation) :
    (mergeFrom kept (xs ++ [x])).kept = (({ kept := (mergeFrom kept xs).kept } : MergeRun).push x).kept := by
  rw [mergeFrom_append_singleton, MergeRun.push_kept]

/-- The values of the items with a key, in order. -/
def valuesUnder {α κ : Type} [DecidableEq κ] (key : α → κ) (value : α → Node × SourceLocation)
    (k : κ) (items : List α) : List (Node × SourceLocation) :=
  items.filterMap fun x => if key x = k then some (value x) else none

section ValuesUnder

variable {α κ : Type} [DecidableEq κ] (key : α → κ) (value : α → Node × SourceLocation)

theorem valuesUnder_append_singleton (k : κ) (items : List α) (x : α) :
    valuesUnder key value k (items ++ [x]) =
      valuesUnder key value k items ++ if key x = k then [value x] else [] := by
  unfold valuesUnder
  rw [List.filterMap_append]
  by_cases h : key x = k <;> simp [h]

end ValuesUnder

/-! ## §2. Metadata -/

namespace Loader

/-- The event of a metadata value dropped for differing from the kept one. -/
def metadataConflict (key : String) (first source : SourceLocation) : Event :=
  modelEvent s!"Metadata conflict for key `{key}`. Defined in both `{first.text}` and `{source.text}`" source

theorem lookup_putByKey {β : Type} (l : List (String × β)) (k k' : String) (v : β) :
    (putByKey l k v).lookup k' = if k = k' then some v else l.lookup k' := by
  rw [putByKey_eq, Keyed.lookup_put]

/-- One metadata value: the key's run takes one more value, and the other keys
keep theirs. -/
theorem lookup_onMetadata (l : Loader) (key : String) (value : Node) (source : SourceLocation)
    (k : String) :
    (l.onMetadata key value source).metadata.lookup k =
      if key = k then ((({ kept := l.metadata.lookup key } : MergeRun).push (value, source)).kept)
      else l.metadata.lookup k := by
  unfold onMetadata
  cases hprev : l.metadata.lookup key with
  | none => simp [lookup_putByKey, MergeRun.push]
  | some prev =>
    obtain ⟨previous, first⟩ := prev
    simp only [MergeRun.push, MergeRun.skips]
    by_cases hs : (!source.isNone && first == source) = true
    · simp only [hs, if_true]
      split <;> simp_all
    · simp only [hs, Bool.false_eq_true, if_false, MergeRun.combine_eq]
      cases mergeTraitValues previous value <;> simp only [lookup_putByKey, onError] <;>
        by_cases h : key = k <;> simp_all

/-- One metadata value adds the conflict event exactly when its key's run drops it. -/
theorem onMetadata_events (l : Loader) (key : String) (value : Node) (source : SourceLocation) :
    (l.onMetadata key value source).events = l.events ++
      (((({ kept := l.metadata.lookup key } : MergeRun).dropsAgainst (value, source)).map
        fun first => metadataConflict key first source).toList) := by
  unfold onMetadata
  cases hprev : l.metadata.lookup key with
  | none => simp [MergeRun.dropsAgainst]
  | some prev =>
    obtain ⟨previous, first⟩ := prev
    simp only [MergeRun.dropsAgainst, MergeRun.skips]
    by_cases hs : (!source.isNone && first == source) = true
    · simp [hs]
    · simp only [hs, Bool.false_eq_true, if_false, Bool.not_false, Bool.true_and, MergeRun.combine_eq]
      cases mergeTraitValues previous value <;> simp [onError, metadataConflict]

/-- Metadata values given one after another: key, value and place. -/
def onMetadataAll (l : Loader) (calls : List (String × Node × SourceLocation)) : Loader :=
  calls.foldl (fun l c => l.onMetadata c.1 c.2.1 c.2.2) l

theorem onMetadataAll_append_singleton (l : Loader) (calls : List (String × Node × SourceLocation))
    (c : String × Node × SourceLocation) :
    l.onMetadataAll (calls ++ [c]) = (l.onMetadataAll calls).onMetadata c.1 c.2.1 c.2.2 := by
  simp [onMetadataAll, List.foldl_append]

/-- After metadata values, each key holds the run of the values given under it. -/
theorem lookup_onMetadataAll (l : Loader) (calls : List (String × Node × SourceLocation)) (k : String) :
    (l.onMetadataAll calls).metadata.lookup k =
      (mergeFrom (l.metadata.lookup k) (valuesUnder Prod.fst Prod.snd k calls)).kept := by
  induction calls using List.reverseRecOn with
  | nil => rfl
  | append_singleton done c ih =>
    rw [onMetadataAll_append_singleton, lookup_onMetadata, valuesUnder_append_singleton]
    by_cases hk : c.1 = k
    · subst hk
      simp only [if_true, ih, mergeFrom_append_kept]
    · simp [hk, ih]

/-- A metadata value adds the conflict event exactly when the run of the values
given before under its key drops it. -/
theorem onMetadataAll_events (l : Loader) (done : List (String × Node × SourceLocation))
    (c : String × Node × SourceLocation) :
    (l.onMetadataAll (done ++ [c])).events = (l.onMetadataAll done).events ++
      (((mergeFrom (l.metadata.lookup c.1) (valuesUnder Prod.fst Prod.snd c.1 done)).dropsAgainst c.2).map
        fun first => metadataConflict c.1 first c.2.2).toList := by
  rw [onMetadataAll_append_singleton, onMetadata_events, lookup_onMetadataAll]
  rfl

theorem onMetadata_sorted {l : Loader} (hl : Keyed.Sorted compare Prod.fst l.metadata) (key : String)
    (value : Node) (source : SourceLocation) :
    Keyed.Sorted compare Prod.fst (l.onMetadata key value source).metadata := by
  unfold onMetadata
  split
  · exact putByKey_eq .. ▸ hl.put _
  · split
    · exact hl
    · split
      · exact putByKey_eq .. ▸ hl.put _
      · exact hl
      · exact hl

theorem onMetadataAll_sorted {l : Loader} (hl : Keyed.Sorted compare Prod.fst l.metadata)
    (calls : List (String × Node × SourceLocation)) :
    Keyed.Sorted compare Prod.fst (l.onMetadataAll calls).metadata := by
  induction calls using List.reverseRecOn with
  | nil => exact hl
  | append_singleton done c ih =>
    rw [onMetadataAll_append_singleton]
    exact onMetadata_sorted ih _ _ _

/-! ## §3. The metadata of the finished model -/

/-- Applying a value changes only the declarations and the events. -/
theorem applyTrait_frame (l : Loader) (target : ShapeId) (t : Trait) :
    ∃ shapes events, l.applyTrait target t = { l with shapes, events } := by
  by_cases hm : target.isMember
  all_goals
    simp only [applyTrait, hm, if_true, if_false, Bool.false_eq_true]
    split
    · exact ⟨l.shapes, l.events, rfl⟩
    · split
      · exact ⟨_, _, rfl⟩
      · exact ⟨_, _, rfl⟩

/-- Applying a row changes only the declarations and the events. -/
theorem applyRow_frame (l : Loader) (target : ShapeId) (row : List (ShapeId × Node × SourceLocation)) :
    ∃ shapes events, l.applyRow target row = { l with shapes, events } := by
  induction row generalizing l with
  | nil => exact ⟨l.shapes, l.events, rfl⟩
  | cons x rest ih =>
    -- the first value changes only those two, and so does the rest of the row
    obtain ⟨s₁, e₁, h₁⟩ : ∃ shapes events, l.applyRow target [x] = { l with shapes, events } := by
      simp only [applyRow, List.foldl_cons, List.foldl_nil]
      split
      · exact applyTrait_frame l target _
      · exact ⟨l.shapes, _, rfl⟩
    obtain ⟨s₂, e₂, h₂⟩ := ih (l.applyRow target [x])
    exact ⟨s₂, e₂, h₂.trans (by rw [h₁])⟩

/-- Finishing traits changes only the declarations, the pending applications
and the events. -/
theorem finalized_frame (l : Loader) :
    ∃ shapes events, l.finalized = { l with shapes, traits := [], events } := by
  suffices ∀ (table : TraitTable) (l' : Loader), ∃ shapes events,
      table.foldl (fun l x => l.applyRow x.1 x.2) l' = { l' with shapes, events } by
    rw [finalized, finalizeTraits_eq]
    obtain ⟨s, e, h⟩ := this _ _
    exact ⟨s, e, h⟩
  intro table
  induction table with
  | nil => exact fun l' => ⟨l'.shapes, l'.events, rfl⟩
  | cons x rest ih =>
    intro l'
    obtain ⟨s₁, e₁, h₁⟩ := l'.applyRow_frame x.1 x.2
    obtain ⟨s₂, e₂, h₂⟩ := ih (l'.applyRow x.1 x.2)
    exact ⟨s₂, e₂, h₂.trans (by rw [h₁])⟩

theorem finalized_metadata (l : Loader) : l.finalized.metadata = l.metadata := by
  obtain ⟨s, e, h⟩ := l.finalized_frame
  rw [h]

theorem insertShapes_metadata (m : Model) (ss : List Shape) : (m.insertShapes ss).metadata = m.metadata := by
  induction ss generalizing m with
  | nil => rfl
  | cons s rest ih => exact ih _

theorem baseModel_metadata (l : Loader) : l.baseModel.metadata = [] := by
  unfold baseModel
  split
  · simp [Model.addModel, prelude, insertShapes_metadata]
  · rfl

/-- The finished model holds the loader's metadata entries, in order, when the
loader keeps them in key order. -/
theorem finish_metadata {l : Loader} (hl : Keyed.Sorted compare Prod.fst l.metadata) :
    l.finish.model.metadata = l.metadata.map fun e => (e.1, e.2.1) := by
  -- putting the loader's ordered entries one by one into no metadata rebuilds them
  have hput : ∀ (entries : List (String × Node × SourceLocation)) (m : Model),
      (entries.foldl (fun m (e : String × Node × SourceLocation) => m.putMetadata e.1 e.2.1) m).metadata =
        (entries.map fun e => (e.1, e.2.1)).foldl (Keyed.put compare Prod.fst) m.metadata := by
    intro entries
    induction entries with
    | nil => exact fun _ => rfl
    | cons e rest ih =>
      intro m
      simp only [List.foldl_cons, List.map_cons]
      rw [ih]
      simp [Model.putMetadata, Model.putEntry_eq]
  have hsorted : Keyed.Sorted compare Prod.fst ([] ++ l.metadata.map fun e => (e.1, e.2.1)) := by
    simpa [Keyed.Sorted, List.pairwise_map] using hl
  rw [finish_eq, hput, insertShapes_metadata, baseModel_metadata, finalized_metadata,
    Keyed.foldl_put_of_sorted hsorted, List.nil_append]

/-- The finished model has, under each key, the value the loader holds. -/
theorem metadataProperty_finish {l : Loader} (hl : Keyed.Sorted compare Prod.fst l.metadata) (k : String) :
    l.finish.model.metadataProperty k = (l.metadata.lookup k).map (·.1) := by
  simp only [Model.metadataProperty]
  rw [finish_metadata hl, Keyed.lookup_eq_find?, List.find?_map]
  simp [Function.comp_def]

/-! ## §4. Collecting trait values -/

/-- The event of a trait value dropped for differing from the kept one. -/
def traitConflict (traitId target : ShapeId) (first source : SourceLocation) : Event :=
  { modelEvent
      s!"Conflicting `{traitId.text}` trait found on shape `{target.text}`. The previous trait was defined at `{first.text}`, and a conflicting trait was defined at `{source.text}`."
      source with shapeId := some target }

/-- The applications of a trait to a target among pending ones, in order: the
applications whose name resolves to the trait, each value coerced by the type
of the trait's shape, with its place. -/
def applicationsIn (l : Loader) (defs : List ShapeId) (items : List PendingTrait)
    (target traitId : ShapeId) : List (Node × SourceLocation) :=
  items.filterMap fun p =>
    if p.target = target ∧ resolveTraitName defs p.name = some traitId then
      some (coerceTraitValue p.value (l.definitionType traitId), p.source)
    else none

theorem applicationsIn_append_singleton (l : Loader) (defs : List ShapeId) (done : List PendingTrait)
    (p : PendingTrait) (target traitId : ShapeId) :
    l.applicationsIn defs (done ++ [p]) target traitId = l.applicationsIn defs done target traitId ++
      if p.target = target ∧ resolveTraitName defs p.name = some traitId then
        [(coerceTraitValue p.value (l.definitionType traitId), p.source)]
      else [] := by
  unfold applicationsIn
  rw [List.filterMap_append]
  split <;> simp [*]

/-- The value a table of trait values holds for a target and a trait. -/
def rowLookup (table : TraitTable) (target traitId : ShapeId) : Option (Node × SourceLocation) :=
  ((table.lookup target).getD []).lookup traitId

theorem lookup_putById {β : Type} (l : List (ShapeId × β)) (k k' : ShapeId) (v : β) :
    (putById l k v).lookup k' = if k = k' then some v else l.lookup k' := by
  rw [putById_eq, Keyed.lookup_put]

theorem rowLookup_put (table : TraitTable) (target traitId : ShapeId) (v : Node × SourceLocation)
    (target' traitId' : ShapeId) :
    rowLookup (putById table target (putById ((table.lookup target).getD []) traitId v)) target' traitId' =
      if target = target' ∧ traitId = traitId' then some v else rowLookup table target' traitId' := by
  unfold rowLookup
  rw [lookup_putById]
  by_cases ht : target = target'
  · subst ht
    simp [lookup_putById]
  · simp [ht]

/-- One application to a declared shape whose name resolves: the run of its
trait on its target takes its value, every other run stays, and the conflict
event is added exactly when the run drops the value. -/
theorem collectTrait_resolved (l : Loader) (defs declared : List ShapeId) (events : List Event)
    (table : TraitTable) {p : PendingTrait} {traitId : ShapeId} (hdecl : p.target ∈ declared)
    (hres : resolveTraitName defs p.name = some traitId) :
    let x := (coerceTraitValue p.value (l.definitionType traitId), p.source)
    let r : MergeRun := { kept := rowLookup table p.target traitId }
    (∀ target' traitId', rowLookup (l.collectTrait defs declared (events, table) p).2 target' traitId' =
        if p.target = target' ∧ traitId = traitId' then (r.push x).kept
        else rowLookup table target' traitId') ∧
      (l.collectTrait defs declared (events, table) p).1 =
        events ++ ((r.dropsAgainst x).map fun first => traitConflict traitId p.target first p.source).toList := by
  dsimp only
  have hcontains : declared.contains p.target = true := List.elem_iff.mpr hdecl
  unfold collectTrait
  simp only [hcontains, Bool.not_true, Bool.false_eq_true, if_false, hres]
  cases hrow : ((table.lookup p.target).getD []).lookup traitId with
  | none =>
    have hr : rowLookup table p.target traitId = none := hrow
    simp only [hr, MergeRun.push, MergeRun.dropsAgainst]
    refine ⟨fun target' traitId' => ?_, by simp⟩
    rw [rowLookup_put]
  | some prev =>
    obtain ⟨previous, first⟩ := prev
    have hr : rowLookup table p.target traitId = some (previous, first) := hrow
    simp only [hr, MergeRun.push, MergeRun.dropsAgainst, MergeRun.skips]
    -- the row keeps its value except where the run takes a merged one
    have hkeep : ∀ target' traitId', (if p.target = target' ∧ traitId = traitId' then some (previous, first)
        else rowLookup table target' traitId') = rowLookup table target' traitId' := by
      intro target' traitId'
      split
      · next h => obtain ⟨rfl, rfl⟩ := h; exact hr.symm
      · rfl
    by_cases hs : (!p.source.isNone && first == p.source) = true
    · simp only [hs, if_true, Bool.not_true, Bool.false_and, Bool.false_eq_true, if_false]
      exact ⟨fun target' traitId' => (hkeep target' traitId').symm, by simp⟩
    · simp only [hs, Bool.false_eq_true, if_false, Bool.not_false, Bool.true_and, MergeRun.combine_eq]
      cases hm : mergeTraitValues previous (coerceTraitValue p.value (l.definitionType traitId)) with
      | merged v =>
        exact ⟨fun target' traitId' => rowLookup_put .., by simp⟩
      | duplicate =>
        exact ⟨fun target' traitId' => (hkeep target' traitId').symm, by simp⟩
      | conflict =>
        exact ⟨fun target' traitId' => (hkeep target' traitId').symm, by simp [traitConflict]⟩

/-- Collecting an application changes the table only by putting one value of
its target's row. -/
theorem collectTrait_table (l : Loader) (defs declared : List ShapeId) (events : List Event)
    (table : TraitTable) (p : PendingTrait) :
    (l.collectTrait defs declared (events, table) p).2 = table ∨
      ∃ traitId v, (l.collectTrait defs declared (events, table) p).2 =
        putById table p.target (putById ((table.lookup p.target).getD []) traitId v) := by
  unfold collectTrait
  dsimp only
  split
  · exact .inl rfl
  · split
    · exact .inl rfl
    · split
      · exact .inr ⟨_, _, rfl⟩
      · split
        · exact .inl rfl
        · split
          · exact .inr ⟨_, _, rfl⟩
          · exact .inl rfl
          · exact .inl rfl

/-- An application to an undeclared shape, or whose name does not resolve,
leaves the table as it is. -/
theorem collectTrait_table_of_not_resolved (l : Loader) (defs declared : List ShapeId)
    (events : List Event) (table : TraitTable) {p : PendingTrait}
    (h : p.target ∉ declared ∨ resolveTraitName defs p.name = none) :
    (l.collectTrait defs declared (events, table) p).2 = table := by
  unfold collectTrait
  rcases h with h | h
  · simp [h]
  · by_cases hd : p.target ∈ declared <;> simp [hd, h]

/-- A table of trait values holds, for each declared target and each trait, the
run of the trait's applications to the target among the applications
collected; its keys, and the keys of each row, are in order. -/
structure TableOf (l : Loader) (defs declared : List ShapeId) (done : List PendingTrait)
    (table : TraitTable) : Prop where
  lookup : ∀ target traitId, rowLookup table target traitId =
    if target ∈ declared then (mergeRun (l.applicationsIn defs done target traitId)).kept else none
  sorted : Keyed.Sorted ShapeId.compare Prod.fst table
  rows_sorted : ∀ e ∈ table, Keyed.Sorted ShapeId.compare Prod.fst e.2

section TableOf

variable {l : Loader} {defs declared : List ShapeId}

theorem TableOf.empty : TableOf l defs declared [] [] where
  lookup _ _ := by split <;> rfl
  sorted := List.Pairwise.nil
  rows_sorted _ h := by cases h

/-- The row of a target in an ordered table is in order. -/
theorem TableOf.row_sorted {done : List PendingTrait} {table : TraitTable}
    (h : TableOf l defs declared done table) (target : ShapeId) :
    Keyed.Sorted ShapeId.compare Prod.fst ((table.lookup target).getD []) := by
  cases hrow : table.lookup target with
  | none => exact List.Pairwise.nil
  | some row =>
    obtain ⟨l₁, l₂, htable, -⟩ := List.lookup_eq_some_iff.mp hrow
    exact h.rows_sorted (target, row) (by simp [htable])

/-- Collecting one more application keeps the table the table of the
applications collected. -/
theorem TableOf.collectTrait {done : List PendingTrait} {table : TraitTable}
    (h : TableOf l defs declared done table) (events : List Event) (p : PendingTrait) :
    TableOf l defs declared (done ++ [p]) (l.collectTrait defs declared (events, table) p).2 where
  lookup target traitId := by
    rw [applicationsIn_append_singleton]
    by_cases hp : p.target ∈ declared ∧ ∃ x, resolveTraitName defs p.name = some x
    · obtain ⟨hdecl, x, hres⟩ := hp
      rw [(l.collectTrait_resolved defs declared events table hdecl hres).1, h.lookup]
      by_cases hkey : p.target = target ∧ x = traitId
      · obtain ⟨rfl, rfl⟩ := hkey
        simp [hdecl, hres, mergeRun, mergeFrom_append_kept]
      · have hnot : ¬(p.target = target ∧ resolveTraitName defs p.name = some traitId) := by
          rintro ⟨h1, h2⟩
          exact hkey ⟨h1, Option.some.inj (hres.symm.trans h2)⟩
        simp only [hkey, if_false, hnot, List.append_nil]
        exact h.lookup target traitId
    · have hnot : p.target ∉ declared ∨ resolveTraitName defs p.name = none := by
        by_cases hd : p.target ∈ declared
        · refine .inr (Option.eq_none_iff_forall_ne_some.mpr fun x hx => hp ⟨hd, x, hx⟩)
        · exact .inl hd
      rw [l.collectTrait_table_of_not_resolved defs declared events table hnot, h.lookup]
      -- the application is not one of the trait to the target
      have hnew : ¬(target ∈ declared ∧ p.target = target ∧ resolveTraitName defs p.name = some traitId) := by
        rintro ⟨hd, rfl, hres⟩
        rcases hnot with h' | h'
        · exact h' hd
        · rw [h'] at hres; cases hres
      by_cases hd : target ∈ declared
      · have : ¬(p.target = target ∧ resolveTraitName defs p.name = some traitId) :=
          fun h' => hnew ⟨hd, h'⟩
        simp [hd, this]
      · simp [hd]
  sorted := by
    rcases l.collectTrait_table defs declared events table p with heq | ⟨traitId, v, heq⟩
    · rw [heq]
      exact h.sorted
    · rw [heq, putById_eq]
      exact h.sorted.put _
  rows_sorted e he := by
    rcases l.collectTrait_table defs declared events table p with heq | ⟨traitId, v, heq⟩
    · rw [heq] at he
      exact h.rows_sorted e he
    · rw [heq, putById_eq] at he
      rcases Keyed.mem_put he with rfl | he
      · rw [putById_eq]
        exact (h.row_sorted p.target).put _
      · exact h.rows_sorted e he

/-- After collecting applications, the table is the table of all of them. -/
theorem TableOf.foldl (items : List PendingTrait) (events : List Event) :
    TableOf l defs declared items (items.foldl (l.collectTrait defs declared) (events, [])).2 := by
  induction items using List.reverseRecOn with
  | nil => exact TableOf.empty
  | append_singleton done p ih =>
    rw [List.foldl_append, List.foldl_cons, List.foldl_nil]
    exact ih.collectTrait _ p

/-- While collecting, an application to a declared shape whose name resolves
adds the conflict event exactly when the run of the applications of its trait
to its target before it drops its value. -/
theorem collectTrait_conflict_events (done : List PendingTrait) (p : PendingTrait) (events : List Event)
    {traitId : ShapeId} (hdecl : p.target ∈ declared) (hres : resolveTraitName defs p.name = some traitId) :
    ((done ++ [p]).foldl (l.collectTrait defs declared) (events, [])).1 =
      (done.foldl (l.collectTrait defs declared) (events, [])).1 ++
        (((mergeRun (l.applicationsIn defs done p.target traitId)).dropsAgainst
            (coerceTraitValue p.value (l.definitionType traitId), p.source)).map
          fun first => traitConflict traitId p.target first p.source).toList := by
  rw [List.foldl_append, List.foldl_cons, List.foldl_nil]
  have htable := (TableOf.foldl done events : TableOf l defs declared done _).lookup p.target traitId
  rw [if_pos hdecl] at htable
  rw [(l.collectTrait_resolved defs declared _ _ hdecl hres).2, htable]
  rfl

end TableOf

end Loader

end ShapeKit
