import ShapeKit.Proofs.Reload.Traces
import ShapeKit.Proofs.Reload.CleanLoads

/-!
# What loads keep

Loads only add to a loader: the declarations of an ID grow at their end, a
metadata key keeps the place of its first value, and trait applications and
events are added at the end (`Loader.Grows`, kept by every declaring call, so
by every load: `Loader.grows_loadAll`). The events they add are errors
(`Loader.errorsOnly_loadAll`), so a fresh loader finishes with an event exactly
when it finishes with an error (`Loader.loadAll_finish_events_eq_nil_iff`).
That is what a clean run of loads needs to read back from its document
(`Loader.loadAll_reload`, §5).

What `finish` makes of a tidy loader depends on its declarations, metadata,
options and the table of trait values it collects, and on nothing else
(`Loader.Tidy.finish_congr`). A run of calls that each find their declaration
already in place adds only trait applications (`VisitorCall.run_of_heldBy`),
and a trait application that is the first of its trait on its target adds
nothing to the table (`Loader.collected_append_of_first`).
-/

namespace ShapeKit

open Json

/-! ## §1. Loads only add -/

namespace Loader

/-- The declarations of an ID, in the order given. -/
def declarations (l : Loader) (id : ShapeId) : List PendingShape := (l.shapes.lookup id).getD []

/-- What a later loader keeps of an earlier one: the declarations of each ID
grow at their end, each metadata key keeps the place of its first value,
trait applications and events grow at their end, and the options stay. -/
structure Grows (l l' : Loader) : Prop where
  declarations : ∀ id, l.declarations id <+: l'.declarations id
  metadata : ∀ k v source, l.metadata.lookup k = some (v, source) →
    ∃ v', l'.metadata.lookup k = some (v', source)
  traits : l.traits <+: l'.traits
  events : l.events <+: l'.events
  includePrelude : l'.includePrelude = l.includePrelude
  factory : l'.factory = l.factory
  allowUnknownTraits : l'.allowUnknownTraits = l.allowUnknownTraits

variable {l l' l'' : Loader}

theorem Grows.refl (l : Loader) : l.Grows l :=
  ⟨fun _ => List.prefix_refl _, fun _ _ _ h => ⟨_, h⟩, List.prefix_refl _, List.prefix_refl _, rfl, rfl, rfl⟩

theorem Grows.trans (h₁ : l.Grows l') (h₂ : l'.Grows l'') : l.Grows l'' where
  declarations id := (h₁.declarations id).trans (h₂.declarations id)
  metadata k v source h := by
    obtain ⟨v', h'⟩ := h₁.metadata k v source h
    exact h₂.metadata k v' source h'
  traits := h₁.traits.trans h₂.traits
  events := h₁.events.trans h₂.events
  includePrelude := h₂.includePrelude.trans h₁.includePrelude
  factory := h₂.factory.trans h₁.factory
  allowUnknownTraits := h₂.allowUnknownTraits.trans h₁.allowUnknownTraits

/-- A loader changed only in what `Grows` does not read grows from itself. -/
theorem Grows.of_same (hs : l'.shapes = l.shapes) (hm : l'.metadata = l.metadata) (ht : l'.traits = l.traits)
    (he : l'.events = l.events) (hp : l'.includePrelude = l.includePrelude) (hf : l'.factory = l.factory)
    (ha : l'.allowUnknownTraits = l.allowUnknownTraits) : l.Grows l' where
  declarations id := by simp only [Loader.declarations, hs, List.prefix_refl]
  metadata k v source h := ⟨v, hm ▸ h⟩
  traits := ht ▸ List.prefix_refl _
  events := he ▸ List.prefix_refl _
  includePrelude := hp
  factory := hf
  allowUnknownTraits := ha

theorem Grows.withFileState (h : l.Grows l') (F : FileState) : l.Grows (l'.withFileState F) :=
  h.trans (Grows.of_same rfl rfl rfl rfl rfl rfl rfl)

/-- The first declaration of an ID stays first, from its place. -/
theorem Grows.head_source (hg : l.Grows l') {id : ShapeId} {s : SourceLocation}
    (h : (l.declarations id).head?.map PendingShape.source = some s) :
    (l'.declarations id).head?.map PendingShape.source = some s := by
  obtain ⟨q, hq, hsource⟩ := Option.map_eq_some_iff.mp h
  obtain ⟨more, hmore⟩ := hg.declarations id
  rw [← hmore, List.head?_append, hq]
  exact congrArg some hsource

/-- A declaration is ignored, or is an error event for a missing ID, or is added
at the end of its ID's declarations. -/
theorem onShape_cases (l : Loader) (p : PendingShape) :
    l.onShape p = l ∨ (∃ msg, l.onShape p = l.onError (modelEvent msg p.source)) ∨
    ∃ id, p.id = some id ∧ l.onShape p = { l with shapes := putById l.shapes id (l.declarations id ++ [p]) } := by
  unfold onShape
  split
  · exact .inr (.inl ⟨_, rfl⟩)
  · dsimp only
    split <;> (try split) <;> (try split) <;>
      first | exact .inl rfl | exact .inr (.inr ⟨_, by assumption, rfl⟩)

theorem grows_onShape (l : Loader) (p : PendingShape) : l.Grows (l.onShape p) := by
  rcases l.onShape_cases p with h | ⟨e, h⟩ | ⟨id, -, h⟩ <;> rw [h]
  · exact Grows.refl l
  · exact ⟨fun _ => List.prefix_refl _, fun _ _ _ h => ⟨_, h⟩, List.prefix_refl _, List.prefix_append _ _,
      rfl, rfl, rfl⟩
  · refine ⟨fun id' => ?_, fun _ _ _ h => ⟨_, h⟩, List.prefix_refl _, List.prefix_refl _, rfl, rfl, rfl⟩
    -- the ID's declarations get one more at the end
    show l.declarations id' <+: ((putById l.shapes id (l.declarations id ++ [p])).lookup id').getD []
    rw [lookup_putById]
    split
    · next h => subst h; exact List.prefix_append _ _
    · exact List.prefix_refl _

/-- A key with a value keeps the place of its first value through one more. -/
theorem MergeRun.push_first {v : Node} {first : SourceLocation} (x : Node × SourceLocation) :
    ∃ v', (({ kept := some (v, first) } : MergeRun).push x).kept = some (v', first) := by
  simp only [MergeRun.push]
  split
  · exact ⟨v, rfl⟩
  · split
    · exact ⟨_, rfl⟩
    · exact ⟨v, rfl⟩

theorem onMetadata_frame (key : String) (value : Node) (source : SourceLocation) :
    (l.onMetadata key value source).shapes = l.shapes ∧ (l.onMetadata key value source).traits = l.traits ∧
      (l.onMetadata key value source).includePrelude = l.includePrelude ∧
      (l.onMetadata key value source).factory = l.factory ∧
      (l.onMetadata key value source).allowUnknownTraits = l.allowUnknownTraits := by
  unfold onMetadata
  split
  · exact ⟨rfl, rfl, rfl, rfl, rfl⟩
  · split
    · exact ⟨rfl, rfl, rfl, rfl, rfl⟩
    · split <;> exact ⟨rfl, rfl, rfl, rfl, rfl⟩

theorem grows_onMetadata (key : String) (value : Node) (source : SourceLocation) :
    l.Grows (l.onMetadata key value source) := by
  obtain ⟨hs, ht, hp, hf, ha⟩ := onMetadata_frame (l := l) key value source
  refine ⟨fun id => by simp only [Loader.declarations, hs, List.prefix_refl], fun k v first h => ?_,
    ht ▸ List.prefix_refl _,
    ?_, hp, hf, ha⟩
  · rw [lookup_onMetadata]
    split
    · next hk => subst hk; rw [h]; exact MergeRun.push_first _
    · exact ⟨v, h⟩
  · rw [onMetadata_events]
    exact List.prefix_append _ _

end Loader

namespace VisitorCall

open Loader

/-- Every declaring call only adds. -/
theorem grows_apply {c : VisitorCall} (hc : c.Declares) (l : Loader) : l.Grows (c.apply l) := by
  cases c with
  | shape p => exact l.grows_onShape p
  | trait target name value source =>
    exact ⟨fun _ => List.prefix_refl _, fun _ _ _ h => ⟨_, h⟩, List.prefix_append _ _, List.prefix_refl _,
      rfl, rfl, rfl⟩
  | metadata key value source => exact l.grows_onMetadata key value source
  | _ => exact hc.elim

theorem grows_run {cs : List VisitorCall} (hcs : ∀ c ∈ cs, c.Declares) (l : Loader) : l.Grows (run cs l) := by
  induction cs generalizing l with
  | nil => exact Grows.refl l
  | cons c rest ih =>
    exact (grows_apply (hcs c (by simp)) l).trans (ih (fun c' hc' => hcs c' (by simp [hc'])) _)

end VisitorCall

namespace Loader

/-- Every load only adds, also when it stops early. -/
theorem grows_load (l : Loader) (name text : String) : l.Grows (l.load name text).1 := by
  obtain ⟨cs, r, F, hcs, hrun⟩ := load_trace name text
  rcases hrun l with ⟨e, he⟩ | ⟨e, he⟩ | ⟨v, hv⟩
  · rw [he]
    exact Grows.refl l
  · rw [he]
    exact (Grows.refl l).withFileState ⟨name, none, []⟩
  · rw [hv]
    have hopen : l.Grows { l.openFile name with version := v } := Grows.of_same rfl rfl rfl rfl rfl rfl rfl
    exact (hopen.trans (VisitorCall.grows_run (fun c hc => (hcs c hc).1) _)).withFileState F

theorem grows_loadAll (l : Loader) (docs : List (String × String)) : l.Grows (l.loadAll docs) := by
  induction docs generalizing l with
  | nil => exact Grows.refl l
  | cons d rest ih => exact (l.grows_load d.1 d.2).trans (ih _)

/-! ### Loads add only errors -/

variable {l : Loader}

theorem onShape_errorsOnly (h : ErrorsOnly l.events) (p : PendingShape) : ErrorsOnly (l.onShape p).events := by
  rcases l.onShape_cases p with hp | ⟨msg, hp⟩ | ⟨id, -, hp⟩ <;> rw [hp]
  · exact h
  · simpa [onError, modelEvent] using h
  · exact h

theorem onMetadata_errorsOnly (h : ErrorsOnly l.events) (key : String) (value : Node) (source : SourceLocation) :
    ErrorsOnly (l.onMetadata key value source).events := by
  rw [onMetadata_events, errorsOnly_append]
  refine ⟨h, ?_⟩
  cases (({ kept := l.metadata.lookup key } : MergeRun).dropsAgainst (value, source)) <;>
    simp [metadataConflict, modelEvent]

end Loader

namespace VisitorCall

open Loader

theorem errorsOnly_apply {c : VisitorCall} (hc : c.Declares) {l : Loader} (h : ErrorsOnly l.events) :
    ErrorsOnly (c.apply l).events := by
  cases c with
  | shape p => exact onShape_errorsOnly h p
  | trait target name value source => exact h
  | metadata key value source => exact onMetadata_errorsOnly h key value source
  | _ => exact hc.elim

theorem errorsOnly_run {cs : List VisitorCall} (hcs : ∀ c ∈ cs, c.Declares) {l : Loader}
    (h : ErrorsOnly l.events) : ErrorsOnly (run cs l).events := by
  induction cs generalizing l with
  | nil => exact h
  | cons c rest ih => exact ih (fun c' hc' => hcs c' (by simp [hc'])) (errorsOnly_apply (hcs c (by simp)) h)

end VisitorCall

namespace Loader

variable {l : Loader}

theorem errorsOnly_load (h : ErrorsOnly l.events) (name text : String) : ErrorsOnly (l.load name text).1.events := by
  obtain ⟨cs, r, F, hcs, hrun⟩ := load_trace name text
  rcases hrun l with ⟨e, he⟩ | ⟨e, he⟩ | ⟨v, hv⟩
  · rw [he]
    exact h
  · rw [he]
    exact h
  · rw [hv]
    exact VisitorCall.errorsOnly_run (fun c hc => (hcs c hc).1) h

theorem errorsOnly_loadAll (h : ErrorsOnly l.events) (docs : List (String × String)) :
    ErrorsOnly (l.loadAll docs).events := by
  induction docs generalizing l with
  | nil => exact h
  | cons d rest ih => exact ih (errorsOnly_load h d.1 d.2)

/-- A fresh loader does not allow unknown traits, so whatever it loads, every
event its finish reports is an error. -/
theorem loadAll_finish_errorsOnly (docs : List (String × String)) :
    ErrorsOnly (({} : Loader).loadAll docs).finish.events :=
  finish_errorsOnly (grows_loadAll {} docs).allowUnknownTraits (errorsOnly_loadAll errorsOnly_nil docs)

/-- For a fresh loader, finishing without an error is finishing without any event. -/
theorem loadAll_finish_events_eq_nil_iff (docs : List (String × String)) :
    (({} : Loader).loadAll docs).finish.events = [] ↔
      ∀ e ∈ (({} : Loader).loadAll docs).finish.events, e.severity ≠ .error := by
  constructor
  · intro h e he
    simp [h] at he
  · intro h
    exact List.eq_nil_iff_forall_not_mem.mpr fun e he => h e he (loadAll_finish_errorsOnly docs e he)

/-! ## §2. What finishing reads -/

variable {l l' : Loader}

theorem declaredIds_congr (hs : l'.shapes = l.shapes) : l'.declaredIds = l.declaredIds := by
  simp only [declaredIds, hs]

theorem definitionType_congr (hs : l'.shapes = l.shapes) (hp : l'.includePrelude = l.includePrelude) :
    l'.definitionType = l.definitionType := by
  funext id
  simp only [definitionType, hs, hp]

theorem definitionIds_congr (hs : l'.shapes = l.shapes) (ht : l'.traits = l.traits)
    (hp : l'.includePrelude = l.includePrelude) : l'.definitionIds = l.definitionIds := by
  simp only [definitionIds, hs, ht, hp]

theorem collectTrait_congr (hs : l'.shapes = l.shapes) (hp : l'.includePrelude = l.includePrelude)
    (ha : l'.allowUnknownTraits = l.allowUnknownTraits) : l'.collectTrait = l.collectTrait := by
  funext defs declared acc item
  simp only [collectTrait, definitionType_congr hs hp, ha]

/-- Trait names resolve by which definitions there are, not by their order or repeats. -/
theorem resolveTraitName_congr {defs defs' : List ShapeId} (h : ∀ x, x ∈ defs' ↔ x ∈ defs) :
    resolveTraitName defs' = resolveTraitName defs := by
  have hc : ∀ x, defs'.contains x = defs.contains x := fun x => by
    rw [Bool.eq_iff_iff, List.contains_iff_mem, List.contains_iff_mem, h x]
  funext r
  cases r <;> simp only [resolveTraitName, hc]

theorem collectTrait_congr_defs {defs defs' declared : List ShapeId} (h : ∀ x, x ∈ defs' ↔ x ∈ defs) :
    l.collectTrait defs' declared = l.collectTrait defs declared := by
  funext acc item
  simp only [collectTrait, resolveTraitName_congr h]

theorem collected_congr (hs : l'.shapes = l.shapes) (ht : l'.traits = l.traits) (he : l'.events = l.events)
    (hp : l'.includePrelude = l.includePrelude) (ha : l'.allowUnknownTraits = l.allowUnknownTraits) :
    l'.collected = l.collected := by
  simp only [collected, collectTrait_congr hs hp ha, definitionIds_congr hs ht hp, declaredIds_congr hs, ht, he]

theorem baseModel_congr (hp : l'.includePrelude = l.includePrelude) : l'.baseModel = l.baseModel := by
  simp only [baseModel, hp]

/-- **What a tidy loader finishes to depends only on its declarations, its
metadata, its options and the trait values it collects.** -/
theorem Tidy.finish_congr (hl : l.Tidy) (hl' : l'.Tidy) (hs : l'.shapes = l.shapes)
    (hm : l'.metadata = l.metadata) (hp : l'.includePrelude = l.includePrelude) (hf : l'.factory = l.factory)
    (hc : l'.collected = l.collected) : l'.finish = l.finish := by
  rw [finish_eq, finish_eq, finalized_metadata, finalized_metadata, finalized_baseModel, finalized_baseModel,
    buildShapes_eq, buildShapes_eq, hl.finalized_shapes, hl'.finalized_shapes, hl.finalized.2, hl'.finalized.2,
    hs, hm, hf, hc, resolveRef_congr (fun x => by rw [declaredIds_congr hs]) hp, baseModel_congr hp]

end Loader

/-! ## §3. Calls a loader already holds -/

namespace VisitorCall

open Loader

/-- The trait applications a run of calls makes, in order. -/
def traitItems (cs : List VisitorCall) : List PendingTrait :=
  cs.filterMap fun c => match c with
    | .trait target name value source => some ⟨target, name, value, source⟩
    | _ => none

theorem traitItems_cons (c : VisitorCall) (rest : List VisitorCall) :
    traitItems (c :: rest) = traitItems [c] ++ traitItems rest := by
  cases c <;> rfl

theorem traits_apply {c : VisitorCall} (hc : c.Declares) (l : Loader) :
    (c.apply l).traits = l.traits ++ traitItems [c] := by
  cases c with
  | shape p =>
    show (l.onShape p).traits = l.traits ++ []
    rw [List.append_nil]
    rcases l.onShape_cases p with h | ⟨e, h⟩ | ⟨id, -, h⟩ <;> rw [h]
    rfl
  | trait target name value source => rfl
  | metadata key value source =>
    simp only [apply, (l.onMetadata_frame key value source).2.1, traitItems, List.filterMap_cons,
      List.filterMap_nil, List.append_nil]
  | _ => exact hc.elim

theorem traits_run {cs : List VisitorCall} (hcs : ∀ c ∈ cs, c.Declares) (l : Loader) :
    (run cs l).traits = l.traits ++ traitItems cs := by
  induction cs generalizing l with
  | nil => simp [run, traitItems]
  | cons c rest ih =>
    show (run rest (c.apply l)).traits = _
    rw [ih (fun c' hc' => hcs c' (by simp [hc'])), traits_apply (hcs c (by simp)), traitItems_cons c rest,
      List.append_assoc]

/-- The loader already holds what the call declares, from the call's own known
place: the shape is a prelude shape the prelude gives, or the first
declaration of its ID is from the call's place; the first value of the
metadata key is from the call's place. -/
def HeldBy (l : Loader) : VisitorCall → Prop
  | .shape p => ∃ id, p.id = some id ∧ ((l.includePrelude && isPreludeShape id) = true ∨
      ((l.declarations id).head?.map PendingShape.source = some p.source ∧ p.source.isNone = false))
  | .trait .. => True
  | .metadata key _ source => (l.metadata.lookup key).map (·.2) = some source ∧ source.isNone = false
  | _ => False

theorem HeldBy.congr {c : VisitorCall} {l l' : Loader} (h : c.HeldBy l) (hs : l'.shapes = l.shapes)
    (hm : l'.metadata = l.metadata) (hp : l'.includePrelude = l.includePrelude) : c.HeldBy l' := by
  cases c with
  | shape p => simpa only [HeldBy, Loader.declarations, hs, hp] using h
  | trait target name value source => trivial
  | metadata key value source => simpa only [HeldBy, hm] using h
  | _ => exact h.elim

/-- A call the loader already holds adds its trait application, and nothing else. -/
theorem apply_of_heldBy {c : VisitorCall} {l : Loader} (h : c.HeldBy l) :
    c.apply l = { l with traits := l.traits ++ traitItems [c] } := by
  cases c with
  | shape p =>
    obtain ⟨id, hid, hheld⟩ := h
    show l.onShape p = { l with traits := l.traits ++ [] }
    rw [List.append_nil]
    unfold onShape
    rw [hid]
    dsimp only
    rcases hheld with hp | ⟨hfirst, hknown⟩
    · rw [if_pos hp]
    · split
      · rfl
      · -- the first declaration is from the call's place
        obtain ⟨first, hhead, hsource⟩ := Option.map_eq_some_iff.mp hfirst
        simp only [Loader.declarations] at hhead
        simp [hhead, hsource, hknown]
  | trait target name value source => rfl
  | metadata key value source =>
    obtain ⟨hfirst, hknown⟩ := h
    obtain ⟨⟨v, first⟩, hlookup, rfl⟩ := Option.map_eq_some_iff.mp hfirst
    show l.onMetadata key value first = { l with traits := l.traits ++ [] }
    simp [Loader.onMetadata, hlookup, hknown]
  | _ => exact h.elim

/-- **A run of calls the loader already holds adds their trait applications,
and nothing else.** -/
theorem run_of_heldBy {cs : List VisitorCall} {l : Loader} (h : ∀ c ∈ cs, c.HeldBy l) :
    run cs l = { l with traits := l.traits ++ traitItems cs } := by
  induction cs generalizing l with
  | nil => simp [run, traitItems]
  | cons c rest ih =>
    show run rest (c.apply l) = _
    rw [apply_of_heldBy (h c (by simp)),
      ih (l := { l with traits := l.traits ++ traitItems [c] }) fun c' hc' => (h c' (by simp [hc'])).congr rfl rfl rfl,
      traitItems_cons c rest, List.append_assoc]

end VisitorCall

/-! ## §4. Trait applications that are first on their targets -/

/-- A run that starts with a value keeps the place of that value. -/
theorem mergeFrom_first (v : Node) (first : SourceLocation) (xs : List (Node × SourceLocation)) :
    ∃ v', (mergeFrom (some (v, first)) xs).kept = some (v', first) := by
  induction xs using List.reverseRecOn with
  | nil => exact ⟨v, rfl⟩
  | append_singleton xs x ih =>
    obtain ⟨v', h⟩ := ih
    rw [mergeFrom_append_kept, h]
    exact Loader.MergeRun.push_first x

namespace Loader

variable {l : Loader}

/-- The application `q` is the first of its trait on its target among the
loader's applications: the target is declared, the name resolves to a trait,
and the first application of that trait to the target is from the place of `q`. -/
def FirstApplication (l : Loader) (q : PendingTrait) : Prop :=
  q.target ∈ l.declaredIds ∧ ∃ X, resolveTraitName l.definitionIds q.name = some X ∧
    (l.applicationsIn l.definitionIds l.traits q.target X).head?.map Prod.snd = some q.source

/-- Collecting an application whose row already holds a value from its own
known place changes nothing. -/
theorem collectTrait_of_held {defs declared : List ShapeId} {acc : List Event × TraitTable} {q : PendingTrait}
    {X : ShapeId} {v : Node} (hdecl : q.target ∈ declared) (hres : resolveTraitName defs q.name = some X)
    (hrow : rowLookup acc.2 q.target X = some (v, q.source)) (hknown : q.source.isNone = false) :
    l.collectTrait defs declared acc q = acc := by
  obtain ⟨events, table⟩ := acc
  have hcontains : declared.contains q.target = true := List.elem_iff.mpr hdecl
  unfold collectTrait
  simp only [hcontains, Bool.not_true, Bool.false_eq_true, if_false, hres]
  rw [show ((table.lookup q.target).getD []).lookup X = some (v, q.source) from hrow]
  simp [hknown]

/-- The first application of a trait to a declared target sets the place of
its row in the collected table. -/
theorem FirstApplication.rowLookup {q : PendingTrait} (h : l.FirstApplication q) :
    ∃ X v, resolveTraitName l.definitionIds q.name = some X ∧
      rowLookup l.collected.2 q.target X = some (v, q.source) := by
  obtain ⟨hdecl, X, hres, hfirst⟩ := h
  obtain ⟨⟨w, source⟩, hhead, rfl⟩ := Option.map_eq_some_iff.mp hfirst
  obtain ⟨rest, hrest⟩ := List.head?_eq_some_iff.mp hhead
  obtain ⟨v, hv⟩ := mergeFrom_first w q.source rest
  refine ⟨X, v, hres, ?_⟩
  rw [(tableOf_collected l).lookup, if_pos hdecl, hrest]
  exact hv

theorem mem_definitionIds_append {N : List PendingTrait} (hsub : ∀ q ∈ N, q ∈ l.traits) (x : ShapeId) :
    x ∈ { l with traits := l.traits ++ N }.definitionIds ↔ x ∈ l.definitionIds := by
  simp only [definitionIds, List.filterMap_append, List.mem_append]
  -- the applications added are applications already there
  have hN : ∀ (f : PendingTrait → Option ShapeId) y, y ∈ N.filterMap f → y ∈ l.traits.filterMap f := by
    intro f y hy
    obtain ⟨q, hq, hqy⟩ := List.mem_filterMap.mp hy
    exact List.mem_filterMap.mpr ⟨q, hsub q hq, hqy⟩
  constructor
  · rintro ((h | h | h) | h)
    · exact .inl (.inl h)
    · exact .inl (.inr h)
    · exact .inl (.inr (hN _ x h))
    · exact .inr h
  · rintro ((h | h) | h)
    · exact .inl (.inl h)
    · exact .inl (.inr (.inl h))
    · exact .inr h

/-- **Applications already among the loader's, each the first of its trait on
its target and from a known place, add nothing to the collected table or
events.** -/
theorem collected_append_of_first {N : List PendingTrait} (hsub : ∀ q ∈ N, q ∈ l.traits)
    (hfirst : ∀ q ∈ N, l.FirstApplication q ∧ q.source.isNone = false) :
    { l with traits := l.traits ++ N }.collected = l.collected := by
  unfold collected
  rw [collectTrait_congr rfl rfl rfl, collectTrait_congr_defs (mem_definitionIds_append hsub),
    show ({ l with traits := l.traits ++ N } : Loader).declaredIds = l.declaredIds from rfl, List.foldl_append]
  show N.foldl (l.collectTrait l.definitionIds l.declaredIds) l.collected = l.collected
  -- each application finds its row holding a value from its own place
  induction N with
  | nil => rfl
  | cons q rest ih =>
    obtain ⟨hq, hknown⟩ := hfirst q (by simp)
    obtain ⟨X, v, hres, hrow⟩ := hq.rowLookup
    rw [List.foldl_cons, collectTrait_of_held hq.1 hres hrow hknown]
    exact ih (fun q' hq' => hsub q' (by simp [hq'])) fun q' hq' => hfirst q' (by simp [hq'])

end Loader

/-! ## §5. A clean run of loads reads back -/

namespace Json

/-- Whether two numbers are the same term: integers by value, doubles as the
same double. -/
def Number.identical : Number → Number → Bool
  | .nat a, .nat b => a == b
  | .neg a, .neg b => a == b
  | .float a, .float b => decide (a = b)
  | _, _ => false

mutual
/-- Whether two values are the same term, compared constructor by constructor.
Unlike `Node.equal` it tells key orders and float encodings apart; it is the
test by which a concrete reading is checked against a document. -/
def Node.identical : Node → Node → Bool
  | .null, .null => true
  | .bool a, .bool b => a == b
  | .num a, .num b => a.identical b
  | .str a, .str b => a == b
  | .arr xs, .arr ys => Node.identicalItems xs ys
  | .obj xs, .obj ys => Node.identicalEntries xs ys
  | _, _ => false

def Node.identicalItems : List Node → List Node → Bool
  | [], [] => true
  | x :: xs, y :: ys => x.identical y && Node.identicalItems xs ys
  | _, _ => false

def Node.identicalEntries : List (String × Node) → List (String × Node) → Bool
  | [], [] => true
  | (k, x) :: xs, (k', y) :: ys => k == k' && x.identical y && Node.identicalEntries xs ys
  | _, _ => false
end

theorem Number.eq_of_identical {a b : Number} (h : a.identical b = true) : a = b := by
  cases a <;> cases b <;> simp_all [Number.identical]

mutual
theorem Node.eq_of_identical : ∀ {x y : Node}, x.identical y = true → x = y
  | .null, y, h => by cases y <;> simp_all [Node.identical]
  | .bool a, y, h => by cases y <;> simp_all [Node.identical]
  | .num a, y, h => by
    cases y with
    | num b => rw [Number.eq_of_identical h]
    | _ => simp [Node.identical] at h
  | .str a, y, h => by cases y <;> simp_all [Node.identical]
  | .arr xs, y, h => by
    cases y with
    | arr ys => rw [Node.eq_of_identicalItems h]
    | _ => simp [Node.identical] at h
  | .obj xs, y, h => by
    cases y with
    | obj ys => rw [Node.eq_of_identicalEntries h]
    | _ => simp [Node.identical] at h

theorem Node.eq_of_identicalItems : ∀ {xs ys : List Node}, Node.identicalItems xs ys = true → xs = ys
  | [], [], _ => rfl
  | [], _ :: _, h => by simp [Node.identicalItems] at h
  | _ :: _, [], h => by simp [Node.identicalItems] at h
  | x :: xs, y :: ys, h => by
    rw [Node.identicalItems, Bool.and_eq_true] at h
    rw [Node.eq_of_identical h.1, Node.eq_of_identicalItems h.2]

theorem Node.eq_of_identicalEntries :
    ∀ {xs ys : List (String × Node)}, Node.identicalEntries xs ys = true → xs = ys
  | [], [], _ => rfl
  | [], _ :: _, h => by simp [Node.identicalEntries] at h
  | _ :: _, [], h => by simp [Node.identicalEntries] at h
  | (k, x) :: xs, (k', y) :: ys, h => by
    rw [Node.identicalEntries, Bool.and_eq_true, Bool.and_eq_true, beq_iff_eq] at h
    rw [h.1.1, Node.eq_of_identical h.1.2, Node.eq_of_identicalEntries h.2]
end

/-- A text reads as a value when its reading is identical to it. -/
theorem read_eq_ok_of_identical {text : String} {v : Node}
    (h : (read text).toOption.any (·.identical v) = true) : read text = .ok v := by
  cases hr : read text with
  | error e =>
    rw [hr] at h
    cases h
  | ok w =>
    rw [hr] at h
    have hw : w = v := Node.eq_of_identical (x := w) (y := v) h
    rw [hw]

end Json

namespace Loader

/-- **A clean run of loads reads back from its document.** For every run of
loads into a fresh loader whose trait definitions are plain and whose finish
reports no ERROR event, loading a text that reads as the finished model's
document into a fresh loader succeeds, and finishing it reports no event and
gives the same model, places apart. -/
theorem loadAll_reload {docs : List (String × String)} (hd : (({} : Loader).loadAll docs).PlainDefinitions)
    (hev : ∀ e ∈ (({} : Loader).loadAll docs).finish.events, e.severity ≠ .error) {name text : String}
    (hread : read text = .ok (({} : Loader).loadAll docs).finish.model.toDocument) :
    ∃ l, ({} : Loader).load name text = (l, none) ∧ l.finish.events = [] ∧
      l.finish.model.placeless = (({} : Loader).loadAll docs).finish.model.placeless := by
  -- a fresh loader reports errors only, so the finish reports nothing at all
  have hclean : (({} : Loader).loadAll docs).finish.events = [] := (loadAll_finish_events_eq_nil_iff docs).mpr hev
  have hl : (({} : Loader).loadAll docs).Tidy := (Tidy.of_empty rfl rfl).loadAll docs
  have hv : (({} : Loader).loadAll docs).IdsValid := IdsValid.empty.loadAll docs
  have hf : (({} : Loader).loadAll docs).factory = .builtin := (factory_loadInvariant .builtin).loadAll rfl docs
  exact (hl.finish_layered hd.withPrelude).reload (hl.reloadable hv hd.withPrelude hf hclean)
    (hl.traitsDefined hd hclean) hread

/-- The document of the model `structureDocument` loads to, printed with
indentation. -/
def structureDocumentPretty : String :=
  "\x7b\n  \"smithy\": \"1.0\",\n  \"shapes\": \x7b\n    \"ns#S\": \x7b\n      \"type\": \"structure\",\n      \"members\": \x7b\n        \"a\": \x7b\n          \"target\": \"ns#T\",\n          \"traits\": \x7b\n            \"smithy.api#required\": \x7b\x7d\n          \x7d\n        \x7d\n      \x7d,\n      \"traits\": \x7b\n        \"smithy.api#sensitive\": \x7b\x7d\n      \x7d\n    \x7d,\n    \"ns#T\": \x7b\n      \"type\": \"string\"\n    \x7d\n  \x7d\n\x7d"

/-- Both trait names of `structureDocument` are absolute prelude IDs other than
`trait`, so its load has plain definitions. -/
theorem loadAll_structureDocument_plain : (({} : Loader).loadAll [("a.json", structureDocument)]).PlainDefinitions := by
  have hnames : (({} : Loader).loadAll [("a.json", structureDocument)]).traits.map (·.name) =
      [.resolved (ShapeId.prelude "required"), .resolved (ShapeId.prelude "sensitive")] := by
    decide +kernel
  refine .of_absolute ((includePrelude_loadInvariant true).loadAll rfl _) fun p hp => ?_
  have hname : p.name ∈ (({} : Loader).loadAll [("a.json", structureDocument)]).traits.map (·.name) :=
    List.mem_map_of_mem hp
  rw [hnames, List.mem_cons, List.mem_singleton] at hname
  rcases hname with h | h
  · exact ⟨_, h, by decide⟩
  · exact ⟨_, h, by decide⟩

theorem loadAll_structureDocument_finish_events :
    (({} : Loader).loadAll [("a.json", structureDocument)]).finish.events = [] :=
  List.isEmpty_iff.mp (by decide +kernel)

/-- The document `structureDocumentPretty` prints. -/
def structureDocumentValue : Node :=
  .obj [("smithy", .str "1.0"), ("shapes", .obj [
    ("ns#S", .obj [("type", .str "structure"),
      ("members", .obj [("a", .obj [("target", .str "ns#T"), ("traits", .obj [("smithy.api#required", .obj [])])])]),
      ("traits", .obj [("smithy.api#sensitive", .obj [])])]),
    ("ns#T", .obj [("type", .str "string")])])]

theorem read_structureDocumentPretty : read structureDocumentPretty = .ok structureDocumentValue :=
  read_eq_ok_of_identical (by decide +kernel)

theorem loadAll_structureDocument_toDocument :
    (({} : Loader).loadAll [("a.json", structureDocument)]).finish.model.toDocument = structureDocumentValue :=
  Node.eq_of_identical (by decide +kernel)

/-- Loading `structureDocument` finishes cleanly, with plain definitions, and
its indented printing reads back as the same model. -/
theorem loadAll_reload_structure :
    (({} : Loader).loadAll [("a.json", structureDocument)]).PlainDefinitions ∧
      (∀ e ∈ (({} : Loader).loadAll [("a.json", structureDocument)]).finish.events, e.severity ≠ .error) ∧
      read structureDocumentPretty = .ok (({} : Loader).loadAll [("a.json", structureDocument)]).finish.model.toDocument ∧
      ∃ l, ({} : Loader).load "b.json" structureDocumentPretty = (l, none) ∧ l.finish.events = [] ∧
        l.finish.model.placeless = (({} : Loader).loadAll [("a.json", structureDocument)]).finish.model.placeless := by
  have hev := (loadAll_finish_events_eq_nil_iff [("a.json", structureDocument)]).mp
    loadAll_structureDocument_finish_events
  have hread : read structureDocumentPretty =
      .ok (({} : Loader).loadAll [("a.json", structureDocument)]).finish.model.toDocument := by
    rw [loadAll_structureDocument_toDocument]
    exact read_structureDocumentPretty
  exact ⟨loadAll_structureDocument_plain, hev, hread, loadAll_reload loadAll_structureDocument_plain hev hread⟩

end Loader

end ShapeKit
