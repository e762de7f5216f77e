import ShapeKit.Load.Assembler
import ShapeKit.Proofs.DuplicateShapes

/-!
# Assembling an assembled model again

A model assembled from documents with the prelude is made of three layers:
the prelude, the shapes the documents declared (each built once, in ID order,
none a member or a prelude shape) and the metadata in key order
(`Model.Layered`). Assembling such a model again, as the only source and
without validation, takes every layer apart and puts it back:

  * each shape that is neither a member nor a prelude shape is declared once
    again, in pending form, which builds back to it; members come back with
    their containers and the prelude comes back from the prelude itself;
  * the metadata is declared again key by key, with no conflict;
  * no trait is applied, so nothing is merged or refused.

The proof meets at `Model.Layered`: every tidy load with the prelude finishes
to a layered model (`Loader.Tidy.finish_layered`), and every layered model
assembles back to itself with no event (`Model.Layered.reassemble`).
`Assembler.reassemble_assembled` puts them together.
-/

namespace ShapeKit

open Json

/-! ## §1. What loading keeps -/

namespace Loader

/-- Two load invariants together are one. -/
theorem LoadInvariant.and {P Q : Loader → Prop} (hP : LoadInvariant P) (hQ : LoadInvariant Q) :
    LoadInvariant fun l => P l ∧ Q l where
  frame h hs := ⟨hP.frame h.1 hs, hQ.frame h.2 hs⟩
  onMetadata h key value source := ⟨hP.onMetadata h.1 key value source, hQ.onMetadata h.2 key value source⟩
  onShape h hid hp := ⟨hP.onShape h.1 hid hp, hQ.onShape h.2 hid hp⟩

theorem onMetadata_includePrelude (l : Loader) (key : String) (value : Node) (source : SourceLocation) :
    (l.onMetadata key value source).includePrelude = l.includePrelude := by
  unfold Loader.onMetadata
  split
  · rfl
  · split
    · rfl
    · split <;> rfl

/-- Loading never changes the prelude option. -/
theorem includePrelude_loadInvariant (b : Bool) : LoadInvariant fun l => l.includePrelude = b where
  frame h hs := hs.includePrelude.trans h
  onMetadata h key value source := (onMetadata_includePrelude _ key value source).trans h
  onShape {l p _} h _ _ := by
    rcases onShape_sameDecls_or_put l p with hs | ⟨id, -, -, heq⟩
    · exact hs.includePrelude.trans h
    · rw [heq]
      exact h

/-- Putting metadata entries keeps a load invariant. -/
theorem LoadInvariant.foldl_onMetadata {P : Loader → Prop} (hP : LoadInvariant P)
    (entries : List (String × Node)) {l : Loader} (hl : P l) :
    P (entries.foldl (fun l (k, v) => l.onMetadata k v .none) l) := by
  induction entries generalizing l with
  | nil => exact hl
  | cons e rest ih => exact ih (hP.onMetadata hl e.1 e.2 .none)

end Loader

namespace Assembler

open Loader

/-- Loading the files of an import keeps a load invariant. -/
theorem loadFiles_keeps {P : Loader → Prop} (hP : LoadInvariant P) :
    ∀ (files : List (String × Except LoadError String)) {l l' : Loader}, loadFiles l files = .ok l' → P l → P l'
  | [], _, _, h, hl => by
    cases h
    exact hl
  | (name, contents) :: rest, l, l', h, hl => by
    unfold loadFiles at h
    cases contents with
    | error e => cases h
    | ok text =>
      -- a load that stops fails the import; one that ends goes on with the rest
      have hload := hP.load hl name text
      simp only [bind, Except.bind] at h
      split at h
      · next l₁ hl₁ =>
        rw [hl₁] at hload
        exact loadFiles_keeps hP rest h hload
      · cases h

/-- Loading the sources keeps a load invariant. -/
theorem loadSources_keeps {P : Loader → Prop} (hP : LoadInvariant P) (imports : String → ImportedFiles) :
    ∀ (sources : List ModelSource) {l l' : Loader}, loadSources imports l sources = .ok l' → P l → P l'
  | [], _, _, h, hl => by
    cases h
    exact hl
  | .importPath path :: rest, l, l', h, hl => by
    unfold loadSources at h
    simp only [bind, Except.bind] at h
    split at h
    · cases h
    · next files _ =>
      split at h
      · cases h
      · next l₁ hfiles =>
        exact loadSources_keeps hP imports rest h (loadFiles_keeps hP files hfiles hl)
  | .text name contents :: rest, l, l', h, hl => by
    unfold loadSources at h
    have hload := hP.load hl name contents
    split at h
    · next l₁ hl₁ =>
      rw [hl₁] at hload
      exact loadSources_keeps hP imports rest h hload
    · cases h

/-- An assembly that ends gives the model its loader finishes to. -/
theorem assemble_eq_ok_some {a : Assembler} {imports : String → ImportedFiles} {r : ValidatedResult}
    (h : a.assemble imports = .ok (some r)) :
    ∃ l, loadSources imports a.start a.sources = .ok l ∧ r.model = l.finish.model := by
  unfold assemble at h
  simp only [bind, Except.bind, pure, Except.pure] at h
  split at h
  · cases h
  · next l hl =>
    refine ⟨l, hl, ?_⟩
    simp only [Except.ok.injEq, Option.map_eq_some_iff] at h
    obtain ⟨events, -, rfl⟩ := h
    rfl

end Assembler

/-! ## §2. Layered models -/

namespace Model

/-- Putting shapes keeps a model's shapes in ID order. -/
theorem IdSorted.insertShapes {m : Model} (hm : IdSorted m.shapes) (ss : List Shape) :
    IdSorted (m.insertShapes ss).shapes := by
  induction ss generalizing m with
  | nil => exact hm
  | cons s rest ih =>
    refine ih ?_
    rw [insertShape_shapes]
    exact (IdSorted.foldl_putShape (List.Pairwise.filter _ hm) _).putShape s

theorem IdSorted.addModel {m : Model} (hm : IdSorted m.shapes) (o : Model) : IdSorted (m.addModel o).shapes :=
  hm.foldl_putShape o.shapes

theorem preludeBase_sorted : IdSorted (({} : Model).addModel prelude).shapes :=
  IdSorted.addModel (m := {}) List.Pairwise.nil prelude

/-- A model of three layers: the prelude; over it the shapes `built`, in ID
order, each well formed, none a member or a prelude shape; and metadata in key
order. -/
structure Layered (M : Model) (built : List Shape) : Prop where
  shapes : M.shapes = ((({} : Model).addModel prelude).insertShapes built).shapes
  sorted : IdSorted built
  built_wf : ∀ s ∈ built, s.WellFormed ∧ s.isMember = false ∧ isPreludeShape s.id = false
  metadata_sorted : Keyed.Sorted compare Prod.fst M.metadata

end Model

namespace Loader

theorem Tidy.recorded {l : Loader} (hl : l.Tidy) : l.Recorded where
  decls := ⟨hl.decls.sorted, fun e he p hp => (hl.decls.entries e he p hp).id⟩
  not_prelude := hl.not_prelude

/-- **A tidy load with the prelude finishes to a layered model**: the prelude,
the first build of each declared ID, and the metadata. -/
theorem Tidy.finish_layered {l : Loader} (hl : l.Tidy) (hp : l.includePrelude = true) :
    l.finish.model.Layered l.finalized.buildShapes.1 where
  shapes := by
    rw [finish_eq, foldl_putMetadata_shapes, finalized_baseModel, baseModel, if_pos hp]
  sorted := by
    rw [buildShapes_spec]
    exact idSorted_firstBuilds (hl.recorded.decls.inPlace (finalized_inPlace hl.recorded.decls))
  built_wf s hs := by
    rw [buildShapes_spec] at hs
    obtain ⟨e, he, hes⟩ := List.mem_filterMap.mp hs
    obtain ⟨p, hpe, hb⟩ := firstBuild_eq_some hes
    obtain ⟨hid, hnm, -, -, hwf⟩ := hl.build_finalized he hpe hb
    -- the ID is declared, so the prelude does not give it
    have hpre := hl.recorded.not_prelude_finalized he
    rw [hp] at hpre
    refine ⟨hwf, by rw [← hwf.id_isMember, hid, hnm], ?_⟩
    rw [hid]
    simpa using hpre
  metadata_sorted := by
    rw [finish_metadata hl.metadata_sorted]
    simpa [Keyed.Sorted, List.pairwise_map] using hl.metadata_sorted

end Loader

/-! ## §3. Taking a layered model apart -/

namespace Loader

/-- Whether a loader with the prelude declares a built shape it is given: it
takes members with their containers, and prelude shapes from the prelude. -/
def declaresBuilt (s : Shape) : Bool := !s.isMember && !isPreludeShape s.id

end Loader

theorem PendingShape.ofShape_id (s : Shape) : (PendingShape.ofShape s).id = some s.id :=
  Builder.foldl_keeps (fun b => b.id = some s.id) _ (fun b m hb => by split <;> exact hb) _ _
    (Shape.toBuilder_id s)

theorem PendingShape.resolve_ofShape (f : ShapeReference → ShapeId) (s : Shape) :
    (PendingShape.ofShape s).resolve f = PendingShape.ofShape s := by
  simp [PendingShape.resolve, PendingShape.ofShape, resolveAll, Function.comp_def]

open Loader

theorem Model.Layered.get?_eq {M : Model} {built : List Shape} (hM : M.Layered built) (k : ShapeId) :
    M.get? k = ((({} : Model).addModel prelude).insertShapes built).get? k := by
  unfold Model.get?
  rw [hM.shapes]

/-- A layered model holds each of its builds under the build's ID. -/
theorem Model.Layered.get?_built {M : Model} {built : List Shape} (hM : M.Layered built) {s : Shape}
    (hs : s ∈ built) : M.get? s.id = some s := by
  have hwf : ∀ s ∈ built, s.WellFormed := fun s hs => (hM.built_wf s hs).1
  have htop : s.id.isMember = false := (hwf s hs).id_isMember.trans (hM.built_wf s hs).2.1
  rw [hM.get?_eq, get?_insertShapes_of_top preludeBase_membersWithin (fun s hs y hy => ((hwf s hs).member_id y hy).2)
    htop, find?_reverse_of_nodup hM.sorted.ids_nodup, (find?_key_eq_some_iff hM.sorted.ids_nodup).mpr ⟨hs, rfl⟩,
    Option.some_or]

/-- A layered model is indexed: the prelude is, and putting well-formed builds keeps it so. -/
theorem Model.Layered.indexed {M : Model} {built : List Shape} (hM : M.Layered built) :
    ((({} : Model).addModel prelude).insertShapes built).Indexed := by
  have hbase : (({} : Model).addModel prelude).Indexed ∧ (({} : Model).addModel prelude).Owned :=
    ⟨indexed_empty.addModel prelude_consistent.1 prelude_consistent.2,
      (addModel_owned_iff owned_empty prelude_consistent.1 prelude_consistent.2).mpr fun h => by cases h⟩
  exact (insertShapes_consistent (fun s hs => ⟨(hM.built_wf s hs).1, (hM.built_wf s hs).2.1⟩) hbase.1 hbase.2).1

/-- A layered model holds every build and every member of one. -/
theorem Model.Layered.get?_isSome_of_built {M : Model} {built : List Shape} (hM : M.Layered built) {s : Shape}
    (hs : s ∈ built) {T : ShapeId} (hT : s.id = T ∨ ∃ x ∈ s.body.members, x.id = T) : (M.get? T).isSome := by
  rcases hT with rfl | ⟨x, hx, rfl⟩
  · rw [hM.get?_built hs]
    rfl
  · -- a member of a stored container is stored under its own ID
    have hreg := hM.indexed.registered (hM.get?_eq s.id ▸ hM.get?_built hs) (hM.built_wf s hs).2.1 x.toShape
      (by rw [Shape.memberShapes_eq]; exact List.mem_map_of_mem hx)
    rw [hM.get?_eq]
    exact Option.isSome_iff_exists.mpr ⟨_, hreg⟩

/-- The shapes of a layered model that a loader declares again are exactly
the shapes over the prelude. -/
theorem Model.Layered.filter_declaresBuilt {M : Model} {built : List Shape} (hM : M.Layered built) :
    M.shapes.filter declaresBuilt = built := by
  have hsorted : IdSorted M.shapes := hM.shapes ▸ preludeBase_sorted.insertShapes built
  have hwf : ∀ s ∈ built, s.WellFormed := fun s hs => (hM.built_wf s hs).1
  refine Keyed.Sorted.eq_of_mem_iff (hsorted.filter _ : Keyed.Sorted ShapeId.compare Shape.id _)
    (hM.sorted : Keyed.Sorted ShapeId.compare Shape.id built) fun x => ⟨fun hx => ?_, fun hx => ?_⟩
  · obtain ⟨hxM, hkeep⟩ := List.mem_filter.mp hx
    simp only [declaresBuilt, Bool.and_eq_true, Bool.not_eq_eq_eq_not, Bool.not_true] at hkeep
    -- found under its ID: from the prelude, a build, or a member of one
    have hget : ((({} : Model).addModel prelude).insertShapes built).get? x.id = some x := by
      unfold Model.get?
      rw [← hM.shapes]
      exact (find?_key_eq_some_iff hsorted.ids_nodup).mpr ⟨hxM, rfl⟩
    rcases Model.get?_insertShapes_eq_some hwf hget with hbase | ⟨s, hs, rfl | hmem⟩
    · have hpre : x ∈ prelude.shapes := by
        rcases mem_addModel (List.mem_of_find?_eq_some hbase) with h | h
        · exact h
        · cases h
      have hcontains : isPreludeShape x.id = true := List.any_eq_true.mpr ⟨x, hpre, beq_self_eq_true _⟩
      rw [hkeep.2] at hcontains
      cases hcontains
    · exact hs
    · rw [Shape.memberShapes_isMember hmem] at hkeep
      cases hkeep.1
  · obtain ⟨-, hnm, hnp⟩ := hM.built_wf x hx
    refine List.mem_filter.mpr ⟨?_, by simp [declaresBuilt, hnm, hnp]⟩
    -- a build is found under its ID
    exact List.mem_of_find?_eq_some (hM.get?_built hx)

/-- A built shape whose ID is above every declared one is declared after them,
unless it is a member or a prelude shape. -/
theorem Loader.onBuiltShape_of_lt {L : Loader} (hL : L.includePrelude = true) (s : Shape)
    (hlt : ∀ e ∈ L.shapes, ShapeId.compare e.1 s.id = .lt) :
    L.onBuiltShape s =
      if declaresBuilt s then { L with shapes := L.shapes ++ [(s.id, [PendingShape.ofShape s])] } else L := by
  have hlook : L.shapes.lookup s.id = none := Keyed.lookup_eq_none_iff.mpr fun e he h => by
    have hl := hlt e he
    rw [h, (Std.ReflCmp.compare_self : ShapeId.compare s.id s.id = .eq)] at hl
    cases hl
  have hput : ∀ y ∈ L.shapes, ShapeId.compare (Prod.fst y) (Prod.fst (s.id, [PendingShape.ofShape s])) = .lt :=
    hlt
  unfold onBuiltShape declaresBuilt
  cases hm : s.isMember
  · simp only [Bool.false_eq_true, if_false, Bool.not_false, Bool.true_and]
    unfold onShape
    rw [PendingShape.ofShape_id]
    cases hpre : isPreludeShape s.id
    · simp [hlook, hpre, putById_eq, Keyed.put_of_lt hput]
    · simp [hL, hpre]
  · simp

theorem Loader.foldl_onBuiltShape {L : Loader} (hL : L.includePrelude = true) {ss : List Shape}
    (hss : Model.IdSorted ss) (hlt : ∀ e ∈ L.shapes, ∀ s ∈ ss, ShapeId.compare e.1 s.id = .lt) :
    ss.foldl onBuiltShape L =
      { L with shapes := L.shapes ++ (ss.filter declaresBuilt).map fun s => (s.id, [PendingShape.ofShape s]) } := by
  induction ss generalizing L with
  | nil => simp
  | cons s rest ih =>
    obtain ⟨hs, hrest⟩ := List.pairwise_cons.mp hss
    rw [List.foldl_cons, onBuiltShape_of_lt hL s fun e he => hlt e he s List.mem_cons_self]
    split
    · next hd =>
      rw [ih (L := { L with shapes := L.shapes ++ [(s.id, [PendingShape.ofShape s])] }) hL hrest ?_]
      · simp [hd]
      · intro e he x hx
        rcases List.mem_append.mp he with he | he
        · exact hlt e he x (List.mem_cons_of_mem s hx)
        · rw [List.mem_singleton.mp he]
          exact hs x hx
    · next hd =>
      rw [ih hL hrest fun e he x hx => hlt e he x (List.mem_cons_of_mem s hx)]
      simp [hd]

/-- A metadata key above every key held is added after them. -/
theorem Loader.onMetadata_of_lt {L : Loader} (k : String) (v : Node) (hlt : ∀ e ∈ L.metadata, compare e.1 k = .lt) :
    L.onMetadata k v .none = { L with metadata := L.metadata ++ [(k, v, .none)] } := by
  have hlook : L.metadata.lookup k = none := Keyed.lookup_eq_none_iff.mpr fun e he h => by
    have hl := hlt e he
    rw [h, (Std.ReflCmp.compare_self : compare k k = .eq)] at hl
    cases hl
  have hput : ∀ y ∈ L.metadata, compare (Prod.fst y) (Prod.fst (k, (v, SourceLocation.none))) = .lt := hlt
  unfold onMetadata
  rw [hlook]
  simp only [putByKey_eq, Keyed.put_of_lt hput]

theorem Loader.foldl_onMetadata_of_lt {L : Loader} {entries : List (String × Node)}
    (hs : Keyed.Sorted compare Prod.fst entries) (hlt : ∀ e ∈ L.metadata, ∀ x ∈ entries, compare e.1 x.1 = .lt) :
    entries.foldl (fun l (k, v) => l.onMetadata k v .none) L =
      { L with metadata := L.metadata ++ entries.map fun e => (e.1, e.2, .none) } := by
  induction entries generalizing L with
  | nil => simp
  | cons x rest ih =>
    obtain ⟨hx, hrest⟩ := List.pairwise_cons.mp hs
    rw [List.foldl_cons]
    dsimp only
    rw [onMetadata_of_lt x.1 x.2 fun e he => hlt e he x List.mem_cons_self, ih hrest]
    · simp
    · intro e he y hy
      rcases List.mem_append.mp he with he | he
      · exact hlt e he y (List.mem_cons_of_mem x hy)
      · rw [List.mem_singleton.mp he]
        exact hx y hy

/-- Assembling a layered model alone starts from one pending form of each shape
over the prelude and its metadata with no place. -/
theorem Model.Layered.start {M : Model} {built : List Shape} (hM : M.Layered built) :
    ({ models := [M], validate := false } : Assembler).start =
      { shapes := built.map fun s => (s.id, [PendingShape.ofShape s]),
        metadata := M.metadata.map fun e => (e.1, e.2, .none) } := by
  have hsorted : Model.IdSorted M.shapes := hM.shapes ▸ Model.preludeBase_sorted.insertShapes built
  unfold Assembler.start
  simp only [List.foldl_cons, List.foldl_nil]
  rw [foldl_onBuiltShape rfl hsorted (by simp), hM.filter_declaresBuilt,
    foldl_onMetadata_of_lt hM.metadata_sorted (by simp)]
  rfl

/-! ## §4. Putting it back -/

namespace Loader

/-- With no trait applied, finishing traits leaves the resolved declarations
and the events. -/
theorem finalized_of_traits_nil {l : Loader} (ht : l.traits = []) :
    l.finalized.shapes = l.resolved.shapes ∧ l.finalized.events = l.events := by
  have hrt : l.resolved.traits = [] := ht
  rw [finalized, finalizeTraits_eq, hrt]
  exact ⟨rfl, rfl⟩

/-- Declarations that are one pending form of each of some well-formed shapes,
under its ID, build back to those shapes and add no event. -/
theorem buildShapes_of_pending {L : Loader} {ss : List Shape} (hss : ∀ s ∈ ss, s.WellFormed)
    (hshapes : L.shapes = ss.map fun s => (s.id, [PendingShape.ofShape s])) : L.buildShapes = (ss, L.events) := by
  rw [buildShapes_spec, hshapes]
  have hone : ∀ s ∈ ss, firstBuild [PendingShape.ofShape s] = some s := fun s hs => by
    rw [firstBuild_singleton, PendingShape.ofShape_build (hss s hs)]
    rfl
  have hnone : ∀ s ∈ ss, definitionEvents s.id [] [PendingShape.ofShape s] = [] := fun s hs => by
    simp [definitionEvents, definitionEvent, PendingShape.ofShape_build (hss s hs)]
  simp only [List.filterMap_map, List.flatMap_map, Function.comp_def]
  rw [List.filterMap_congr hone, List.filterMap_some, List.flatMap_congr hnone]
  simp

/-- A loader with the prelude, no trait applied and one pending form of each
of some well-formed shapes under its ID finishes to the prelude with those
shapes over it, and adds no event. -/
theorem finish_of_pending {L : Loader} (hp : L.includePrelude = true) (ht : L.traits = []) {ss : List Shape}
    (hss : ∀ s ∈ ss, s.WellFormed) (hshapes : L.shapes = ss.map fun s => (s.id, [PendingShape.ofShape s])) :
    L.finish.model.shapes = ((({} : Model).addModel prelude).insertShapes ss).shapes ∧ L.finish.events = L.events := by
  obtain ⟨hfs, hfe⟩ := finalized_of_traits_nil ht
  -- resolving changes no pending form: they bind no reference
  have hres : L.resolved.shapes = L.shapes := by
    rw [resolved_shapes, hshapes, List.map_map]
    simp [Function.comp_def, PendingShape.resolve_ofShape]
  have hbuilds : L.finalized.buildShapes = (ss, L.events) := by
    rw [buildShapes_of_pending hss (by rw [hfs, hres, hshapes]), hfe]
  refine ⟨?_, ?_⟩
  · rw [finish_eq, foldl_putMetadata_shapes, finalized_baseModel, baseModel, if_pos hp, hbuilds]
  · rw [finish_eq]
    exact congrArg Prod.snd hbuilds

end Loader

/-- **A layered model assembles back to itself**, alone and without
validation, with no event. -/
theorem Model.Layered.reassemble {M : Model} {built : List Shape} (hM : M.Layered built)
    (imports : String → ImportedFiles) :
    ({ models := [M], validate := false } : Assembler).assemble imports = .ok (some ⟨M, []⟩) := by
  set L : Loader :=
    { shapes := built.map fun s => (s.id, [PendingShape.ofShape s]),
      metadata := M.metadata.map fun e => (e.1, e.2, .none) } with hL
  obtain ⟨hshapes, hevents⟩ := finish_of_pending (L := L) rfl rfl (fun s hs => (hM.built_wf s hs).1) rfl
  have hmeta : L.finish.model.metadata = M.metadata := by
    have hsorted : Keyed.Sorted compare Prod.fst L.metadata := by
      simpa [hL, Keyed.Sorted, List.pairwise_map] using hM.metadata_sorted
    rw [finish_metadata hsorted, hL]
    simp [Function.comp_def]
  have hmodel : L.finish.model = M := by
    have hext : ∀ m₁ m₂ : Model, m₁.shapes = m₂.shapes → m₁.metadata = m₂.metadata → m₁ = m₂ := by
      rintro ⟨_, _⟩ ⟨_, _⟩ h₁ h₂
      cases h₁
      cases h₂
      rfl
    exact hext _ _ (hshapes.trans hM.shapes.symm) hmeta
  have hnone : L.finish.events = [] := hevents
  unfold Assembler.assemble
  rw [hM.start, ← hL]
  simp [Assembler.loadSources, hmodel, hnone, sortEvents]

/-- A document of two shapes, one with a member, and traits on the shape and on
the member, written compactly. -/
def structureDocument : String :=
  "\x7b\"smithy\":\"1.0\",\"shapes\":\x7b\"ns#S\":\x7b\"type\":\"structure\",\"members\":\x7b\"a\":\x7b\"target\":\"ns#T\",\"traits\":\x7b\"smithy.api#required\":\x7b\x7d\x7d\x7d\x7d,\"traits\":\x7b\"smithy.api#sensitive\":\x7b\x7d\x7d\x7d,\"ns#T\":\x7b\"type\":\"string\"\x7d\x7d\x7d"

namespace Assembler

open Loader

/-- **Assembling an assembled model again gives it back.** A model assembled
with the prelude from sources and metadata alone, assembled again as the only
model and without validation, comes back equal, with no event. -/
theorem reassemble_assembled (a : Assembler) (imports : String → ImportedFiles) (hmodels : a.models = [])
    (hshapes : a.shapes = []) (hprelude : a.prelude = true) {r : ValidatedResult}
    (hr : a.assemble imports = .ok (some r)) (imports' : String → ImportedFiles) :
    ({ models := [r.model], validate := false } : Assembler).assemble imports' = .ok (some ⟨r.model, []⟩) := by
  obtain ⟨l, hload, hmodel⟩ := assemble_eq_ok_some hr
  have hP := tidy_loadInvariant.and (includePrelude_loadInvariant true)
  -- the loader starts tidy, with the prelude, and the loads keep both
  have hstart : a.start.Tidy ∧ a.start.includePrelude = true := by
    unfold start
    rw [hmodels, hshapes]
    exact hP.foldl_onMetadata a.metadata ⟨Tidy.of_empty rfl rfl, hprelude⟩
  obtain ⟨hl, hp⟩ := loadSources_keeps hP imports a.sources hload hstart
  rw [hmodel]
  exact (hl.finish_layered hp).reassemble imports'

/-- One JSON AST source, `structureDocument`, with the prelude and without
validation. -/
def structureAssembler : Assembler := { sources := [.text "a.json" structureDocument], validate := false }

/-- `structureAssembler` assembles, and its model assembles again to itself. -/
theorem reassemble_assembled_structure :
    ∃ r, structureAssembler.assemble (fun _ => .ok []) = .ok (some r) ∧
      ({ models := [r.model], validate := false } : Assembler).assemble (fun _ => .ok []) = .ok (some ⟨r.model, []⟩) := by
  have hfresh : (({} : Loader).load "a.json" structureDocument).2.isNone = true := by decide +kernel
  have hload : ({} : Loader).load "a.json" structureDocument =
      ((({} : Loader).load "a.json" structureDocument).1, none) :=
    Prod.ext rfl (Option.isNone_iff_eq_none.mp hfresh)
  -- the one source loads into the fresh loader without an error
  have hsources : loadSources (fun _ => .ok []) structureAssembler.start structureAssembler.sources =
      .ok (({} : Loader).load "a.json" structureDocument).1 := by
    rw [show structureAssembler.start = {} from rfl, show structureAssembler.sources =
      [.text "a.json" structureDocument] from rfl, loadSources, hload]
    rfl
  have hr : structureAssembler.assemble (fun _ => .ok []) =
      .ok (some ⟨(({} : Loader).load "a.json" structureDocument).1.finish.model,
        sortEvents (({} : Loader).load "a.json" structureDocument).1.finish.events⟩) := by
    rw [assemble, hsources]
    rfl
  exact ⟨_, hr, reassemble_assembled _ _ rfl rfl rfl hr _⟩

end Assembler

end ShapeKit
