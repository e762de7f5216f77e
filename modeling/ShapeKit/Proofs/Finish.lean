import ShapeKit.Load.Loader
import ShapeKit.Proofs.Keyed

/-!
# The stages of finishing a load

`Loader.finish` resolves every reference (`Loader.resolved`), merges and
applies the trait values (`Loader.finalizeTraits`), builds the declarations
(`Loader.buildShapes`) and puts the built shapes and the metadata into the
model it starts from (`Loader.baseModel`); `Loader.finish_eq` says so.

Facts of every load:
  * events are only added, never dropped, and a trait application whose name
    does not resolve is one (`foldl_collectTrait_resolves`);
  * a declaration that does not build is an error event
    (`exists_error_of_build_error`), and when every declaration builds the
    model gets the first build of each ID (`buildShapes_of_builds`);
  * where unknown traits are not allowed, every event `finish` adds is an
    error (`finish_errorsOnly`);
  * `Trait.Settled` says what a value `finish` gives a trait is like: coercing
    it again by the trait's type keeps it (`coerceTraitValue_idem`), and the
    factory accepts it (`TraitFactory.create_eq_ok_iff`).
-/

namespace ShapeKit

open Json

/-! ## §1. The stages -/

namespace Loader

/-- The IDs the declarations declare: each declaration's own and its members'. -/
def declaredIds (l : Loader) : List ShapeId :=
  l.shapes.flatMap fun (_, entries) => entries.flatMap PendingShape.ids

/-- Where `finish` resolves a reference: an absolute one to itself, a relative
one to a declared ID, else to a public prelude shape of its name, else to the
ID it names. -/
def resolveRef (l : Loader) : ShapeReference → ShapeId
  | .resolved id => id
  | .deferred expected =>
    if l.declaredIds.contains expected then expected
    else if l.includePrelude then
      match ShapeId.ofRelative preludeNamespace expected.relative with
      | .ok fallback => if isPublicPreludeShape fallback then fallback else expected
      | .error _ => expected
    else expected

/-- The loader with every reference of every declaration resolved. -/
def resolved (l : Loader) : Loader :=
  { l with shapes := l.shapes.map fun (id, entries) => (id, entries.map (PendingShape.resolve l.resolveRef)) }

/-- The model `finish` puts the built shapes into. -/
def baseModel (l : Loader) : Model :=
  if l.includePrelude then ({} : Model).addModel prelude else {}

/-- The loader after its trait values are applied. -/
def finalized (l : Loader) : Loader := l.resolved.finalizeTraits l.declaredIds

theorem finish_eq (l : Loader) : l.finish =
    ⟨l.finalized.metadata.foldl (fun m (k, v, _) => m.putMetadata k v)
        (l.finalized.baseModel.insertShapes l.finalized.buildShapes.1),
      l.finalized.buildShapes.2⟩ := rfl

end Loader

/-! ## §2. Events -/

namespace Loader

variable (l : Loader) (defs declared : List ShapeId)

/-- Collecting a trait application keeps the events found so far. -/
theorem collectTrait_events (acc : List Event × TraitTable) (item : PendingTrait) :
    acc.1 <+: (l.collectTrait defs declared acc item).1 := by
  obtain ⟨events, table⟩ := acc
  dsimp only [collectTrait]
  split
  · exact List.prefix_append _ _
  · split
    · exact List.prefix_append _ _
    · split
      · exact List.prefix_refl _
      · split
        · exact List.prefix_refl _
        · split
          · exact List.prefix_refl _
          · exact List.prefix_refl _
          · exact List.prefix_append _ _

theorem foldl_collectTrait_events (items : List PendingTrait) (acc : List Event × TraitTable) :
    acc.1 <+: (items.foldl (l.collectTrait defs declared) acc).1 := by
  induction items generalizing acc with
  | nil => exact List.prefix_refl _
  | cons item rest ih =>
    exact (l.collectTrait_events defs declared acc item).trans (ih _)

/-- A trait application to a declared shape whose name does not resolve is an
event, so when collecting ends without events every such name resolved. -/
theorem foldl_collectTrait_resolves {items : List PendingTrait} {acc : List Event × TraitTable}
    (h : (items.foldl (l.collectTrait defs declared) acc).1 = []) :
    ∀ item ∈ items, declared.contains item.target = true →
      (resolveTraitName defs item.name).isSome = true := by
  induction items generalizing acc with
  | nil => simp
  | cons item rest ih =>
    intro x hx hdecl
    have hnil : (l.collectTrait defs declared acc item).1 = [] :=
      List.prefix_nil.mp (h ▸ l.foldl_collectTrait_events defs declared rest _)
    rcases List.mem_cons.mp hx with rfl | hx
    · -- an unresolved name adds an event, against the empty list
      obtain ⟨events, table⟩ := acc
      cases hres : resolveTraitName defs x.name with
      | some _ => rfl
      | none =>
        have hmem : x.target ∈ declared := by simpa using hdecl
        simp [collectTrait, hmem, hres] at hnil
    · exact ih h x hx hdecl

/-- An absolute trait name resolves to itself when it is a definition or the
`trait` trait. -/
theorem resolveTraitName_resolved {defs : List ShapeId} {id : ShapeId}
    (h : id ∈ defs ∨ id = ShapeId.prelude "trait") : resolveTraitName defs (.resolved id) = some id := by
  rcases h with h | rfl
  · simp [resolveTraitName, h]
  · simp [resolveTraitName]

/-- The first value of a trait on a declared shape, under a name that resolves,
goes into the table coerced, with its place. -/
theorem collectTrait_fresh {table : TraitTable} {target traitId : ShapeId} {name : ShapeReference}
    (value : Node) (source : SourceLocation) (hdecl : target ∈ declared)
    (hres : resolveTraitName defs name = some traitId)
    (hfresh : ((table.lookup target).getD []).lookup traitId = none) :
    l.collectTrait defs declared ([], table) ⟨target, name, value, source⟩ =
      ([], putById table target (putById ((table.lookup target).getD []) traitId
        (coerceTraitValue value (l.definitionType traitId), source))) := by
  simp [collectTrait, hdecl, hres, hfresh]

/-- A trait the builder does not carry yet is added to it. -/
theorem mergeInto_of_get?_eq_none {b : Builder} {t : Trait} (h : b.traits.get? t.id = none) :
    mergeInto b t = (b.addTrait t, none) := by
  simp [mergeInto, h]

/-- Applying a trait keeps the events. -/
theorem applyTrait_events (target : ShapeId) (t : Trait) : l.events <+: (l.applyTrait target t).events := by
  -- the member case and the shape case differ only in the entry they change
  by_cases hm : target.isMember
  all_goals
    simp only [applyTrait, hm, if_true, if_false, Bool.false_eq_true]
    split
    · exact List.prefix_refl _
    · split
      · exact List.prefix_append _ _
      · exact List.prefix_refl _

/-- Applying one row of merged trait values: each value is created, then
applied, or is an event when it cannot be created. -/
def applyRow (l : Loader) (target : ShapeId) (row : List (ShapeId × Node × SourceLocation)) : Loader :=
  row.foldl (fun l (traitId, value, source) =>
    match l.factory.create traitId value source with
    | .ok t => l.applyTrait target t
    | .error e =>
      l.onError { modelEvent s!"Error creating trait `{traitId.name}`: {e.message}" source with
        shapeId := some target }) l

/-- Finishing traits is collecting the values into a table, then applying the
table row by row. -/
theorem finalizeTraits_eq (declared : List ShapeId) : l.finalizeTraits declared =
    let acc := l.traits.foldl (l.collectTrait l.definitionIds declared) (l.events, [])
    acc.2.foldl (fun l (target, row) => l.applyRow target row) { l with traits := [], events := acc.1 } := rfl

theorem applyRow_events (target : ShapeId) (row : List (ShapeId × Node × SourceLocation)) :
    l.events <+: (l.applyRow target row).events := by
  induction row generalizing l with
  | nil => exact List.prefix_refl _
  | cons x rest ih =>
    refine List.IsPrefix.trans ?_ (ih _)
    dsimp only
    split
    · exact l.applyTrait_events _ _
    · exact List.prefix_append _ _

theorem foldl_applyRow_events (table : TraitTable) :
    l.events <+: (table.foldl (fun l (target, row) => l.applyRow target row) l).events := by
  induction table generalizing l with
  | nil => exact List.prefix_refl _
  | cons x rest ih => exact (l.applyRow_events x.1 x.2).trans (ih _)

/-- Finishing traits keeps the events collected. -/
theorem finalizeTraits_events (declared : List ShapeId) :
    (l.traits.foldl (l.collectTrait l.definitionIds declared) (l.events, [])).1 <+:
      (l.finalizeTraits declared).events := by
  rw [finalizeTraits_eq]
  exact foldl_applyRow_events { l with traits := [], events := _ } _

/-- One more declaration of an ID: its build is kept when it is the first that
builds; a failure, or a build unequal to the kept one, is an event. -/
def buildStep (id : ShapeId) (acc : Option Shape × List Event) (p : PendingShape) :
    Option Shape × List Event :=
  match p.build with
  | .error e => (acc.1, acc.2 ++ [{ modelEvent e.message p.source with shapeId := some id }])
  | .ok s =>
    match acc.1 with
    | none => (some s, acc.2)
    | some first =>
      if first.equal s then acc
      else (acc.1, acc.2 ++ [{ modelEvent
        s!"Duplicate shape definition for `{id.text}` found at `{first.source.text}` and `{p.source.text}`"
        p.source with shapeId := some id }])

/-- The declarations of one more ID: the kept build is added to the built shapes. -/
def buildEntries (acc : List Shape × List Event) (e : ShapeId × List PendingShape) :
    List Shape × List Event :=
  let r := e.2.foldl (buildStep e.1) (none, acc.2)
  (acc.1 ++ r.1.toList, r.2)

theorem buildShapes_eq : l.buildShapes = l.shapes.foldl buildEntries ([], l.events) := rfl

theorem buildStep_events (id : ShapeId) (acc : Option Shape × List Event) (p : PendingShape) :
    acc.2 <+: (buildStep id acc p).2 := by
  unfold buildStep
  split
  · exact List.prefix_append _ _
  · split
    · exact List.prefix_refl _
    · split
      · exact List.prefix_refl _
      · exact List.prefix_append _ _

theorem foldl_buildStep_events (id : ShapeId) (ps : List PendingShape) (acc : Option Shape × List Event) :
    acc.2 <+: (ps.foldl (buildStep id) acc).2 := by
  induction ps generalizing acc with
  | nil => exact List.prefix_refl _
  | cons p rest ih => exact (buildStep_events id acc p).trans (ih _)

theorem foldl_buildEntries_events (es : List (ShapeId × List PendingShape)) (acc : List Shape × List Event) :
    acc.2 <+: (es.foldl buildEntries acc).2 := by
  induction es generalizing acc with
  | nil => exact List.prefix_refl _
  | cons e rest ih => exact (foldl_buildStep_events e.1 e.2 (none, acc.2)).trans (ih (buildEntries acc e))

theorem buildShapes_events : l.events <+: l.buildShapes.2 :=
  foldl_buildEntries_events l.shapes ([], l.events)

/-- A declaration that does not build leaves an error event. -/
theorem foldl_buildStep_error {id : ShapeId} {ps : List PendingShape} {p : PendingShape}
    (hp : p ∈ ps) {e : ShapeError} (he : p.build = .error e) (acc : Option Shape × List Event) :
    ∃ ev ∈ (ps.foldl (buildStep id) acc).2, ev.severity = .error := by
  induction ps generalizing acc with
  | nil => cases hp
  | cons q rest ih =>
    rcases List.mem_cons.mp hp with rfl | hp
    · have hstep : buildStep id acc p =
          (acc.1, acc.2 ++ [{ modelEvent e.message p.source with shapeId := some id }]) := by
        simp [buildStep, he]
      refine ⟨{ modelEvent e.message p.source with shapeId := some id }, ?_, rfl⟩
      rw [List.foldl_cons, hstep]
      exact (foldl_buildStep_events id rest _).subset (by simp)
    · exact ih hp _

/-- When every declaration of an ID builds, the first build is kept. -/
theorem foldl_buildStep_of_builds {id : ShapeId} {ps : List PendingShape}
    (h : ∀ p ∈ ps, ∃ s, p.build = .ok s) (acc : Option Shape × List Event) :
    (ps.foldl (buildStep id) acc).1 = acc.1.or (ps.head?.bind fun p => p.build.toOption) := by
  induction ps generalizing acc with
  | nil => simp
  | cons p rest ih =>
    obtain ⟨s, hs⟩ := h p List.mem_cons_self
    rw [List.foldl_cons, ih fun q hq => h q (List.mem_cons_of_mem p hq)]
    rcases acc with ⟨_ | first, events⟩
    · simp [buildStep, hs, Except.toOption]
    · simp only [buildStep, hs, Option.some_or]
      split <;> rfl

/-- A declaration that does not build is an error event of `buildShapes`. -/
theorem exists_error_of_build_error {id : ShapeId} {entries : List PendingShape}
    (he : (id, entries) ∈ l.shapes) {p : PendingShape} (hp : p ∈ entries) {e : ShapeError}
    (hb : p.build = .error e) : ∃ ev ∈ l.buildShapes.2, ev.severity = .error := by
  rw [buildShapes_eq]
  suffices ∀ (es : List (ShapeId × List PendingShape)) (acc : List Shape × List Event),
      (id, entries) ∈ es → ∃ ev ∈ (es.foldl buildEntries acc).2, ev.severity = .error from
    this l.shapes _ he
  intro es
  induction es with
  | nil => exact fun _ h => by cases h
  | cons x rest ih =>
    intro acc hx
    rcases List.mem_cons.mp hx with rfl | hx
    · -- the event of the failed build stays through the later IDs
      have herr : ∃ ev ∈ (entries.foldl (buildStep id) (none, acc.2)).2, ev.severity = .error :=
        foldl_buildStep_error hp hb (none, acc.2)
      obtain ⟨ev, hev, hsev⟩ := herr
      exact ⟨ev, (foldl_buildEntries_events rest _).subset hev, hsev⟩
    · exact ih _ hx

/-- When every declaration builds, `buildShapes` gives the first build of each
ID, in ID order. -/
theorem buildShapes_of_builds (h : ∀ e ∈ l.shapes, ∀ p ∈ e.2, ∃ s, p.build = .ok s) :
    l.buildShapes.1 = l.shapes.filterMap fun e => e.2.head?.bind fun p => p.build.toOption := by
  rw [buildShapes_eq]
  suffices ∀ (es : List (ShapeId × List PendingShape)) (acc : List Shape × List Event),
      (∀ e ∈ es, ∀ p ∈ e.2, ∃ s, p.build = .ok s) →
      (es.foldl buildEntries acc).1 = acc.1 ++ es.filterMap fun e => e.2.head?.bind fun p => p.build.toOption from
    this l.shapes _ h
  intro es
  induction es with
  | nil => simp
  | cons e rest ih =>
    intro acc hall
    rw [List.foldl_cons, ih _ fun x hx => hall x (List.mem_cons_of_mem e hx)]
    simp only [buildEntries, foldl_buildStep_of_builds (hall e List.mem_cons_self), Option.none_or]
    cases hfirst : e.2.head?.bind fun p => p.build.toOption <;> simp [hfirst]

end Loader

/-! ### Strict loaders report only errors

Every event of the loader is a `modelEvent`, an error, except the one for a
trait name that does not resolve, which is a warning where unknown traits are
allowed. -/

/-- Every event of a list is an error. -/
def ErrorsOnly (es : List Event) : Prop := ∀ e ∈ es, e.severity = .error

@[simp] theorem errorsOnly_nil : ErrorsOnly [] := fun _ h => by cases h

@[simp] theorem errorsOnly_append {a b : List Event} : ErrorsOnly (a ++ b) ↔ ErrorsOnly a ∧ ErrorsOnly b :=
  List.forall_mem_append

@[simp] theorem errorsOnly_singleton {e : Event} : ErrorsOnly [e] ↔ e.severity = .error := by
  simp [ErrorsOnly]

namespace Loader

variable {l : Loader} {defs declared : List ShapeId}

theorem collectTrait_errorsOnly (hu : l.allowUnknownTraits = false) {acc : List Event × TraitTable}
    (h : ErrorsOnly acc.1) (item : PendingTrait) : ErrorsOnly (l.collectTrait defs declared acc item).1 := by
  obtain ⟨events, table⟩ := acc
  dsimp only [collectTrait]
  repeat' split
  all_goals simp_all [modelEvent]

theorem foldl_collectTrait_errorsOnly (hu : l.allowUnknownTraits = false) (items : List PendingTrait)
    {acc : List Event × TraitTable} (h : ErrorsOnly acc.1) :
    ErrorsOnly (items.foldl (l.collectTrait defs declared) acc).1 := by
  induction items generalizing acc with
  | nil => exact h
  | cons item rest ih => exact ih (collectTrait_errorsOnly hu h item)

theorem applyTrait_errorsOnly (h : ErrorsOnly l.events) (target : ShapeId) (t : Trait) :
    ErrorsOnly (l.applyTrait target t).events := by
  by_cases hm : target.isMember
  all_goals
    simp only [applyTrait, hm, if_true, if_false, Bool.false_eq_true]
    split
    · exact h
    · split
      · simpa [onError, modelEvent] using h
      · exact h

theorem applyRow_errorsOnly (h : ErrorsOnly l.events) (target : ShapeId)
    (row : List (ShapeId × Node × SourceLocation)) : ErrorsOnly (l.applyRow target row).events := by
  induction row generalizing l with
  | nil => exact h
  | cons x rest ih =>
    apply ih
    dsimp only
    split
    · exact applyTrait_errorsOnly h _ _
    · simpa [onError, modelEvent] using h

theorem foldl_applyRow_errorsOnly (h : ErrorsOnly l.events) (table : TraitTable) :
    ErrorsOnly (table.foldl (fun l (target, row) => l.applyRow target row) l).events := by
  induction table generalizing l with
  | nil => exact h
  | cons x rest ih => exact ih (applyRow_errorsOnly h x.1 x.2)

theorem finalizeTraits_errorsOnly (hu : l.allowUnknownTraits = false) (h : ErrorsOnly l.events)
    (declared : List ShapeId) : ErrorsOnly (l.finalizeTraits declared).events := by
  rw [finalizeTraits_eq]
  exact foldl_applyRow_errorsOnly (foldl_collectTrait_errorsOnly hu _ h) _

theorem buildStep_errorsOnly (id : ShapeId) {acc : Option Shape × List Event} (h : ErrorsOnly acc.2)
    (p : PendingShape) : ErrorsOnly (buildStep id acc p).2 := by
  unfold buildStep
  repeat' split
  all_goals simp_all [modelEvent]

theorem foldl_buildEntries_errorsOnly (es : List (ShapeId × List PendingShape)) {acc : List Shape × List Event}
    (h : ErrorsOnly acc.2) : ErrorsOnly (es.foldl buildEntries acc).2 := by
  induction es generalizing acc with
  | nil => exact h
  | cons e rest ih =>
    -- the declarations of one ID, then the later IDs
    have hstep : ∀ (ps : List PendingShape) (acc : Option Shape × List Event), ErrorsOnly acc.2 →
        ErrorsOnly (ps.foldl (buildStep e.1) acc).2 := by
      intro ps
      induction ps with
      | nil => exact fun _ h => h
      | cons p rest ih => exact fun acc h => ih _ (buildStep_errorsOnly e.1 h p)
    exact ih (hstep e.2 (none, acc.2) h)

/-- A loader that does not allow unknown traits and has reported only errors
finishes with only errors. -/
theorem finish_errorsOnly (hu : l.allowUnknownTraits = false) (h : ErrorsOnly l.events) :
    ErrorsOnly l.finish.events := by
  rw [finish_eq]
  exact foldl_buildEntries_errorsOnly _ (finalizeTraits_errorsOnly (l := l.resolved) hu h _)

end Loader

/-! ## §3. Settled trait values -/

/-- The factory accepts a value of a trait: a typed trait's value passes its
check. -/
def TraitFactory.Accepts (f : TraitFactory) (id : ShapeId) (v : Node) : Prop :=
  f.isTyped id = true → checkTypedValue id.name v = .ok ()

theorem TraitFactory.create_eq_ok_iff {f : TraitFactory} {id : ShapeId} {v : Node}
    {src : SourceLocation} {t : Trait} :
    f.create id v src = .ok t ↔ f.Accepts id v ∧ t = ⟨id, v, src⟩ := by
  unfold TraitFactory.create TraitFactory.Accepts
  by_cases h : f.isTyped id
  · cases checkTypedValue id.name v with
    | error e => simp [h, bind, Except.bind]
    | ok u => simp [h, pure, Except.pure, bind, Except.bind, eq_comm]
  · simp [h, pure, Except.pure, eq_comm]

/-- A trait whose value finishing leaves as it is: coercing it by the type of
the trait's shape keeps it, and the factory accepts it. -/
structure Trait.Settled (T : ShapeId → Option ShapeType) (f : TraitFactory) (t : Trait) : Prop where
  coerced : coerceTraitValue t.value (T t.id) = t.value
  accepted : f.Accepts t.id t.value

theorem coerceTraitValue_idem (v : Node) (t : Option ShapeType) :
    coerceTraitValue (coerceTraitValue v t) t = coerceTraitValue v t := by
  rcases t with _ | t
  · cases v with
    | bool b => cases b <;> rfl
    | _ => rfl
  · cases v with
    | null => cases t <;> rfl
    | bool b => cases b <;> cases t <;> rfl
    | _ => rfl

end ShapeKit
