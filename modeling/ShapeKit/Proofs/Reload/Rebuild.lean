import ShapeKit.Proofs.Reload.ReadBack
import ShapeKit.Proofs.References
import ShapeKit.Proofs.TraitApply

/-!
# Finishing a model read back

A model's document read into a fresh loader declares each written shape once
(`Model.rereadState`). Finishing that loader builds each of them back with its
places taken from the text, and nothing else changes, when the model is
`Model.Reloadable` (its written shapes, traits and metadata are kept in key
order, every ID reads back, and every trait value is settled) and every trait
it applies is defined (`Model.TraitsDefined`).
-/

namespace ShapeKit

open Json Keyed

/-! ## §1. The loader a document reads back into -/

namespace Model

theorem mem_written {m : Model} {s : Shape} (h : s ∈ m.written) :
    s ∈ m.shapes ∧ s.isMember = false ∧ isPreludeShape s.id = false := by
  simp only [written, List.mem_filter, Bool.and_eq_true, Bool.not_eq_true'] at h
  exact ⟨h.1, h.2.1, h.2.2⟩

/-- The loader reading a model's document leaves, whatever namespace it was
last in. -/
def rereadState (m : Model) (loc : Locator) (ns : Option String) : Loader :=
  { file := loc.filename, version := some modelVersion, currentNamespace := ns,
    shapes := m.written.map fun s => (s.id, [s.reread loc]),
    traits := m.written.flatMap (·.rereadApps loc),
    metadata := m.metadata.map fun (k, v) => (k, v, (loc.key k 0).1) }

end Model

/-- Metadata entries with increasing keys above every key so far are put in order. -/
theorem foldl_onMetadata (loc : Locator) (md : List (String × Node)) (l : Loader)
    (hmd : Sorted compare id (l.metadata.map (·.1) ++ md.map (·.1))) :
    md.foldl (fun l (k, v) => l.onMetadata k v (loc.key k 0).1) l =
      { l with metadata := l.metadata ++ md.map fun (k, v) => (k, v, (loc.key k 0).1) } := by
  induction md generalizing l with
  | nil => simp
  | cons e rest ih =>
    obtain ⟨k, v⟩ := e
    -- every key so far is below `k`, so `k` is new and goes last
    have hlt : ∀ y ∈ l.metadata, compare y.1 k = .lt := fun y hy =>
      (List.pairwise_append.mp hmd).2.2 y.1 (List.mem_map_of_mem hy) k (by simp)
    have hnone : l.metadata.lookup k = none := by
      rw [lookup_eq_find?, find?_eq_none_of_lt hlt]
      rfl
    have hput : putByKey l.metadata k (v, (loc.key k 0).1) = l.metadata ++ [(k, v, (loc.key k 0).1)] := by
      rw [putByKey_eq]
      exact put_of_lt hlt
    have hstep : l.onMetadata k v (loc.key k 0).1 =
        { l with metadata := l.metadata ++ [(k, v, (loc.key k 0).1)] } := by
      simp [Loader.onMetadata, hnone, hput]
    rw [List.foldl_cons]
    show List.foldl _ (l.onMetadata k v (loc.key k 0).1) rest = _
    rw [hstep, ih]
    · simp
    · simpa using hmd

/-- Written shapes with increasing IDs above every declared ID are declared in
order, one declaration each. -/
theorem foldl_reread (loc : Locator) (ws : List Shape) (l : Loader)
    (hws : Sorted ShapeId.compare id (l.shapes.map (·.1) ++ ws.map (·.id)))
    (hpre : ∀ s ∈ ws, isPreludeShape s.id = false) :
    ∃ ns, ws.foldl (fun l s =>
        ({ l with currentNamespace := some s.id.ns, traits := l.traits ++ s.rereadApps loc }).onShape
          (s.reread loc)) l =
      { l with currentNamespace := ns, shapes := l.shapes ++ ws.map fun s => (s.id, [s.reread loc]),
               traits := l.traits ++ ws.flatMap (·.rereadApps loc) } := by
  induction ws generalizing l with
  | nil => exact ⟨l.currentNamespace, by simp⟩
  | cons s rest ih =>
    have hlt : ∀ y ∈ l.shapes, ShapeId.compare y.1 s.id = .lt := fun y hy =>
      (List.pairwise_append.mp hws).2.2 y.1 (List.mem_map_of_mem hy) s.id (by simp)
    have hnone : l.shapes.lookup s.id = none := by
      rw [lookup_eq_find?, find?_eq_none_of_lt hlt]
      rfl
    have hput : putById l.shapes s.id [s.reread loc] = l.shapes ++ [(s.id, [s.reread loc])] := by
      rw [putById_eq]
      exact put_of_lt hlt
    have hid : (s.reread loc).id = some s.id := by
      unfold Shape.reread Shape.rereadBuilder PendingShape.id
      split <;> rfl
    have hstep : ({ l with currentNamespace := some s.id.ns, traits := l.traits ++ s.rereadApps loc }).onShape
        (s.reread loc) =
          { l with currentNamespace := some s.id.ns, shapes := l.shapes ++ [(s.id, [s.reread loc])],
                   traits := l.traits ++ s.rereadApps loc } := by
      simp [Loader.onShape, hid, hpre s List.mem_cons_self, hnone, hput]
    obtain ⟨ns, hns⟩ := ih
      { l with
        currentNamespace := some s.id.ns
        shapes := l.shapes ++ [(s.id, [s.reread loc])]
        traits := l.traits ++ s.rereadApps loc }
      (by simpa using hws) fun x hx => hpre x (List.mem_cons_of_mem s hx)
    refine ⟨ns, ?_⟩
    simp only [List.foldl_cons]
    rw [hstep, hns]
    simp

theorem Model.rereadLoader_eq {m : Model} (loc : Locator)
    (hsorted : Sorted ShapeId.compare Shape.id m.written) (hmeta : Sorted compare Prod.fst m.metadata) :
    ∃ ns, m.rereadLoader loc = m.rereadState loc ns := by
  unfold Model.rereadLoader
  rw [foldl_onMetadata loc m.metadata _ (by simpa [Sorted, List.pairwise_map] using hmeta)]
  obtain ⟨ns, hns⟩ := foldl_reread loc m.written
    { ({ file := loc.filename, version := some modelVersion } : Loader) with
      metadata := [] ++ m.metadata.map fun (k, v) => (k, v, (loc.key k 0).1) }
    (by simpa [Sorted, List.pairwise_map] using hsorted) fun s hs => (Model.mem_written hs).2.2
  exact ⟨ns, by rw [hns]; simp [Model.rereadState]⟩

/-! ## §2. References bound -/

@[simp] theorem Shape.rereadBuilder_type (s : Shape) (source : SourceLocation) :
    (s.rereadBuilder source).type = s.type := by
  unfold Shape.rereadBuilder
  split <;> rfl

/-- Sets the IDs a body binds on a builder, in the order the document lists them. -/
def Body.bind (body : Body) (b : Builder) : Builder :=
  body.bindings.foldl (fun b x => x.2.apply b x.1) b

@[simp] theorem Body.bind_traits (body : Body) (b : Builder) : (body.bind b).traits = b.traits := by
  unfold Body.bind
  generalize body.bindings = xs
  induction xs generalizing b with
  | nil => rfl
  | cons x rest ih => simp [ih]

@[simp] theorem Body.bind_type (body : Body) (b : Builder) : (body.bind b).type = b.type := by
  unfold Body.bind
  generalize body.bindings = xs
  induction xs generalizing b with
  | nil => rfl
  | cons x rest ih => simp [ih]

/-- A member of a written shape read back with its target bound and the
traits `ts`. -/
def Member.bound (m : Member) (source : SourceLocation) (ts : TraitMap) : PendingMember :=
  { builder := { (((Builder.new .member).setId m.id).setSource source).setTarget m.target with traits := ts } }

@[simp] theorem Member.bound_id (m : Member) (source : SourceLocation) (ts : TraitMap) :
    (m.bound source ts).builder.id = some m.id := rfl

@[simp] theorem Member.bound_traits (m : Member) (source : SourceLocation) (ts : TraitMap) :
    (m.bound source ts).builder.traits = ts := rfl

/-- A written shape read back with its references bound, and the traits `g`
gives its ID and each member's. -/
def Shape.bound (s : Shape) (loc : Locator) (g : ShapeId → TraitMap) : PendingShape :=
  { builder := { s.body.bind (s.rereadBuilder (loc.key s.id.text 0).1) with traits := g s.id },
    members := s.body.members.map fun m => m.bound (loc.key m.name (loc.key s.id.text 0).2).1 (g m.id) }

/-- Resolving the references of a written shape read back binds them, absolute
as they are. -/
theorem Shape.reread_resolve (s : Shape) (loc : Locator) {r : ShapeReference → ShapeId}
    (hr : ∀ id, r (.resolved id) = id) : (s.reread loc).resolve r = s.bound loc fun _ => [] := by
  have hbuilder : resolveAll r (s.rereadBuilder (loc.key s.id.text 0).1)
      (s.body.bindings.map fun x => (.resolved x.1, x.2)) =
      { s.body.bind (s.rereadBuilder (loc.key s.id.text 0).1) with traits := [] } := by
    have htraits : (s.rereadBuilder (loc.key s.id.text 0).1).traits = [] := by
      unfold Shape.rereadBuilder
      split <;> rfl
    rw [← htraits, ← Body.bind_traits s.body]
    simp [resolveAll, Body.bind, List.foldl_map, hr]
  simp only [Shape.reread, PendingShape.resolve, Shape.bound, hbuilder, List.map_map]
  congr 1
  refine List.map_congr_left fun m _ => ?_
  simp [Member.reread, resolveAll, hr, Member.bound]
  rfl

/-! ## §3. Places and trait applications -/

/-- The traits with every place set to one place. -/
def TraitMap.setPlace (ts : TraitMap) (source : SourceLocation) : TraitMap :=
  ts.map fun t => { t with source }

/-- A member with its place and its traits' places set. -/
def Member.setPlace (m : Member) (source : SourceLocation) : Member :=
  { m with source, traits := m.traits.setPlace source }

/-- Changes each member of a body. -/
def Body.mapMembers (f : Member → Member) : Body → Body
  | .list m => .list (f m)
  | .set m => .set (f m)
  | .map k v => .map (f k) (f v)
  | .structure ms => .structure (ms.map f)
  | .union ms => .union (ms.map f)
  | b => b

/-- A shape with its places set: its own and its traits' to `source`, and each
member's and its traits' to what `memberSource` gives the member. -/
def Shape.setPlaces (s : Shape) (source : SourceLocation) (memberSource : Member → SourceLocation) : Shape :=
  { s with source, traits := s.traits.setPlace source,
           body := s.body.mapMembers fun m => m.setPlace (memberSource m) }

/-- The shape with no place anywhere in it: what the equality of models
compares. -/
def Shape.placeless (s : Shape) : Shape := s.setPlaces .none fun _ => .none

/-- The model with no place anywhere in its shapes. -/
def Model.placeless (m : Model) : Model := { m with shapes := m.shapes.map Shape.placeless }

/-- The shape a written shape reads back as: its places are those of its keys
in the text the document was read from. -/
def Shape.relocate (s : Shape) (loc : Locator) : Shape :=
  s.setPlaces (loc.key s.id.text 0).1 fun m => (loc.key m.name (loc.key s.id.text 0).2).1

@[simp] theorem TraitMap.setPlace_setPlace (ts : TraitMap) (a b : SourceLocation) :
    (ts.setPlace a).setPlace b = ts.setPlace b := by
  simp [TraitMap.setPlace, Function.comp_def]

@[simp] theorem Body.members_mapMembers (f : Member → Member) (b : Body) :
    (b.mapMembers f).members = b.members.map f := by
  cases b <;> rfl

@[simp] theorem Body.type_mapMembers (f : Member → Member) (b : Body) :
    (b.mapMembers f).type = b.type := by
  cases b <;> rfl

theorem Body.mapMembers_mapMembers (f g : Member → Member) (b : Body) :
    (b.mapMembers f).mapMembers g = b.mapMembers (g ∘ f) := by
  cases b <;> simp [Body.mapMembers]

@[simp] theorem Shape.id_setPlaces (s : Shape) (a : SourceLocation) (f : Member → SourceLocation) :
    (s.setPlaces a f).id = s.id := rfl

@[simp] theorem Shape.type_setPlaces (s : Shape) (a : SourceLocation) (f : Member → SourceLocation) :
    (s.setPlaces a f).type = s.type := by
  simp [Shape.setPlaces, Shape.type]

/-- Reading a shape back changes only its places. -/
theorem Shape.placeless_setPlaces (s : Shape) (a : SourceLocation) (f : Member → SourceLocation) :
    (s.setPlaces a f).placeless = s.placeless := by
  simp only [Shape.placeless, Shape.setPlaces, TraitMap.setPlace_setPlace, Body.mapMembers_mapMembers]
  congr 2
  funext m
  simp [Member.setPlace]

/-- The traits a shape and its members carry, each with the ID it is applied
to: the members' first, in order, then the shape's own. -/
def Shape.traitApps (s : Shape) : List (ShapeId × Trait) :=
  s.body.members.flatMap (fun m => m.traits.map (m.id, ·)) ++ s.traits.map (s.id, ·)

/-- The trait applications a model's document writes. -/
def Model.writtenApps (m : Model) : List (ShapeId × Trait) := m.written.flatMap Shape.traitApps

/-- **The condition for a written model to read back.** Every trait the
document applies is defined where the document is read alone: it is the
`trait` trait itself, a trait of the prelude, or a shape or member of the
document that carries the `trait` trait. -/
def Model.TraitsDefined (m : Model) : Prop :=
  ∀ a ∈ m.writtenApps, a.2.id = ShapeId.prelude "trait" ∨ a.2.id ∈ prelude.traitDefinitions.map (·.1) ∨
    (a.2.id, ShapeId.prelude "trait") ∈ m.writtenApps.map fun b => (b.1, b.2.id)

instance (m : Model) : Decidable m.TraitsDefined :=
  inferInstanceAs (Decidable (∀ a ∈ m.writtenApps, _))

/-- A written shape's trait applications as its document is read: each names
its trait absolutely and has the place of the key it is written under. -/
theorem Shape.rereadApps_eq (s : Shape) (loc : Locator) :
    s.rereadApps loc = (s.relocate loc).traitApps.map fun a => ⟨a.1, .resolved a.2.id, a.2.value, a.2.source⟩ := by
  simp [Shape.rereadApps, Shape.traitApps, Shape.relocate, Shape.setPlaces, Member.rereadApps,
    TraitMap.rereadApps, TraitMap.setPlace, Member.setPlace, List.map_flatMap, List.flatMap_map,
    Function.comp_def, Member.name]

/-- Reading a shape back keeps the IDs its traits are applied to, and the traits'
IDs. -/
theorem Shape.traitApps_relocate (s : Shape) (loc : Locator) :
    (s.relocate loc).traitApps.map (fun a => (a.1, a.2.id)) = s.traitApps.map fun a => (a.1, a.2.id) := by
  simp [Shape.traitApps, Shape.relocate, Shape.setPlaces, TraitMap.setPlace, Member.setPlace,
    List.map_flatMap, List.flatMap_map, Function.comp_def]

theorem Shape.mem_traitApps {s : Shape} {a : ShapeId × Trait} :
    a ∈ s.traitApps ↔ (∃ x ∈ s.body.members, a.1 = x.id ∧ a.2 ∈ x.traits) ∨ (a.1 = s.id ∧ a.2 ∈ s.traits) := by
  rcases a with ⟨X, t⟩
  simp only [Shape.traitApps, List.mem_append, List.mem_flatMap, List.mem_map, Prod.mk.injEq]
  constructor
  · rintro (⟨x, hx, u, hu, rfl, rfl⟩ | ⟨u, hu, rfl, rfl⟩)
    · exact .inl ⟨x, hx, rfl, hu⟩
    · exact .inr ⟨rfl, hu⟩
  · rintro (⟨x, hx, rfl, ht⟩ | ⟨rfl, ht⟩)
    · exact .inl ⟨x, hx, t, ht, rfl, rfl⟩
    · exact .inr ⟨t, ht, rfl, rfl⟩

/-- The order a written shape keeps its parts in: its traits and each member's
by trait ID, a resource's identifiers by name. -/
structure Shape.Ordered (s : Shape) : Prop where
  traits : Sorted ShapeId.compare Trait.id s.traits
  member_traits : ∀ x ∈ s.body.members, Sorted ShapeId.compare Trait.id x.traits
  identifiers : ∀ r, s.body = .resource r → Sorted compare Prod.fst r.identifiers

/-- The type of the written shape with an ID, else of the prelude shape. -/
def Model.writtenType (m : Model) (id : ShapeId) : Option ShapeType :=
  match m.written.find? (·.id == id) with
  | some s => some s.type
  | none => (prelude.get? id).map (·.type)

/-- **What a model needs for its document to finish back into it**, trait
definitions apart: its written shapes and metadata are kept in key order, every
written shape reads back and keeps its parts in order, and every trait value it
writes is settled by the types of the shapes it writes. -/
structure Model.Reloadable (m : Model) : Prop where
  written_sorted : Sorted ShapeId.compare Shape.id m.written
  metadata_sorted : Sorted compare Prod.fst m.metadata
  rereadable : ∀ s ∈ m.written, s.Rereadable
  ordered : ∀ s ∈ m.written, s.Ordered
  settled : ∀ a ∈ m.writtenApps, a.2.Settled m.writtenType .builtin

/-- Every ID a written shape read back applies a trait to is its own or a member's. -/
theorem Shape.target_of_mem_traitApps_relocate {s : Shape} {loc : Locator} {a : ShapeId × Trait}
    (ha : a ∈ (s.relocate loc).traitApps) : a.1 = s.id ∨ ∃ x ∈ s.body.members, x.id = a.1 := by
  rcases Shape.mem_traitApps.mp ha with ⟨x, hx, hX, -⟩ | ⟨hX, -⟩
  · simp only [Shape.relocate, Shape.setPlaces, Body.members_mapMembers, List.mem_map] at hx
    obtain ⟨y, hy, rfl⟩ := hx
    exact .inr ⟨y, hy, hX.symm⟩
  · exact .inl hX

/-! ## §4. Collecting the trait values -/

namespace Model

variable {m : Model} {loc : Locator} {ns : Option String}

/-- The trait applications a model's document reads back as, places included. -/
def rereadPairs (m : Model) (loc : Locator) : List (ShapeId × Trait) :=
  m.written.flatMap fun s => (s.relocate loc).traitApps

/-- The IDs a written shape's traits go to: its own and its members'. -/
def Targets (m : Model) (X : ShapeId) : Prop := ∃ s ∈ m.written, X = s.id ∨ ∃ x ∈ s.body.members, x.id = X

theorem rereadPairs_keys (m : Model) (loc : Locator) :
    (m.rereadPairs loc).map (fun a => (a.1, a.2.id)) = m.writtenApps.map fun a => (a.1, a.2.id) := by
  simp only [rereadPairs, writtenApps, List.map_flatMap]
  exact List.flatMap_congr fun s _ => s.traitApps_relocate loc

theorem mem_rereadPairs {a : ShapeId × Trait} :
    a ∈ m.rereadPairs loc ↔ ∃ s ∈ m.written, a ∈ (s.relocate loc).traitApps := by
  simp [rereadPairs]

theorem targets_of_mem_rereadPairs {a : ShapeId × Trait} (ha : a ∈ m.rereadPairs loc) : m.Targets a.1 := by
  obtain ⟨s, hs, ha⟩ := mem_rereadPairs.mp ha
  exact ⟨s, hs, Shape.target_of_mem_traitApps_relocate ha⟩

/-- An application read back is a written one with another place. -/
theorem exists_writtenApps_of_mem_rereadPairs {a : ShapeId × Trait} (ha : a ∈ m.rereadPairs loc) :
    ∃ b ∈ m.writtenApps, b.1 = a.1 ∧ b.2.id = a.2.id ∧ b.2.value = a.2.value := by
  rcases a with ⟨X, u⟩
  obtain ⟨s, hs, ha⟩ := mem_rereadPairs.mp ha
  rcases Shape.mem_traitApps.mp ha with ⟨x, hx, hX, ht⟩ | ⟨hX, ht⟩
  · simp only [Shape.relocate, Shape.setPlaces, Body.members_mapMembers, List.mem_map] at hx
    obtain ⟨x, hx, rfl⟩ := hx
    simp only [Member.setPlace, TraitMap.setPlace, List.mem_map] at ht
    obtain ⟨t, ht, rfl⟩ := ht
    refine ⟨(x.id, t), ?_, hX.symm, rfl, rfl⟩
    exact List.mem_flatMap.mpr ⟨s, hs, Shape.mem_traitApps.mpr (.inl ⟨x, hx, rfl, ht⟩)⟩
  · simp only [Shape.relocate, Shape.setPlaces, TraitMap.setPlace, List.mem_map] at ht
    obtain ⟨t, ht, rfl⟩ := ht
    refine ⟨(s.id, t), ?_, hX.symm, rfl, rfl⟩
    exact List.mem_flatMap.mpr ⟨s, hs, Shape.mem_traitApps.mpr (.inr ⟨rfl, ht⟩)⟩

theorem rereadState_traits (m : Model) (loc : Locator) (ns : Option String) :
    (m.rereadState loc ns).traits =
      (m.rereadPairs loc).map fun a => ⟨a.1, .resolved a.2.id, a.2.value, a.2.source⟩ := by
  simp [rereadState, rereadPairs, Shape.rereadApps_eq, List.map_flatMap]

theorem rereadState_declaredIds (m : Model) (loc : Locator) (ns : Option String) :
    (m.rereadState loc ns).declaredIds = m.written.flatMap fun s => s.id :: s.body.members.map (·.id) := by
  simp only [rereadState, Loader.declaredIds, List.flatMap_map]
  refine List.flatMap_congr fun s _ => ?_
  have hid : (s.reread loc).id = some s.id := by
    unfold Shape.reread Shape.rereadBuilder PendingShape.id
    split <;> rfl
  have hids : (s.reread loc).ids = s.id :: s.body.members.map (·.id) := by
    unfold PendingShape.ids
    rw [hid]
    simp [Shape.reread, Member.reread, Builder.setSource, Builder.setId, Builder.new]
  simpa using hids

theorem mem_declaredIds_of_targets {X : ShapeId} (h : m.Targets X) :
    X ∈ (m.rereadState loc ns).declaredIds := by
  obtain ⟨s, hs, hX⟩ := h
  rw [rereadState_declaredIds, List.mem_flatMap]
  refine ⟨s, hs, ?_⟩
  rcases hX with rfl | ⟨x, hx, rfl⟩
  · exact List.mem_cons_self
  · exact List.mem_cons_of_mem _ (List.mem_map_of_mem hx)

theorem rereadState_resolved (m : Model) (loc : Locator) (ns : Option String) :
    (m.rereadState loc ns).resolved =
      { m.rereadState loc ns with shapes := m.written.map fun s => (s.id, [s.bound loc fun _ => []]) } := by
  simp only [Loader.resolved, rereadState, List.map_map]
  congr 1
  refine List.map_congr_left fun s _ => ?_
  simp only [Function.comp_apply, List.map_cons, List.map_nil]
  rw [Shape.reread_resolve s loc (r := Loader.resolveRef _) fun _ => rfl]

/-- The traits the reread loader sees defined: the targets of `trait`
applications in the document, and the prelude's. -/
theorem mem_rereadState_definitionIds (m : Model) (loc : Locator) (ns : Option String) (id : ShapeId) :
    id ∈ (m.rereadState loc ns).resolved.definitionIds ↔
      (id, ShapeId.prelude "trait") ∈ m.writtenApps.map (fun a => (a.1, a.2.id)) ∨
        id ∈ prelude.traitDefinitions.map (·.1) := by
  have hflat : m.written.flatMap (·.rereadApps loc) =
      (m.rereadPairs loc).map fun a => ⟨a.1, .resolved a.2.id, a.2.value, a.2.source⟩ :=
    rereadState_traits m loc ns
  rw [rereadState_resolved, ← rereadPairs_keys m loc]
  -- no builder carries a trait yet, so only `trait` applications and the prelude define traits
  simp [Loader.definitionIds, Shape.bound, TraitMap.contains, rereadState, hflat]

theorem rereadState_definitionType (m : Model) (loc : Locator) (ns : Option String) (id : ShapeId) :
    (m.rereadState loc ns).resolved.definitionType id = m.writtenType id := by
  rw [rereadState_resolved]
  simp only [Loader.definitionType, writtenType, Keyed.lookup_eq_find?, List.find?_map, Function.comp_def]
  cases m.written.find? (·.id == id) with
  | none => rfl
  | some s => simp [Shape.bound]

end Model

namespace Loader.TraitTable

/-- The trait applications a row of a table holds for its target. -/
def rowApps (X : ShapeId) (row : List (ShapeId × Node × SourceLocation)) : List (ShapeId × Trait) :=
  row.map fun e => (X, ⟨e.1, e.2.1, e.2.2⟩)

/-- The trait applications a table holds, row by row. -/
def apps (table : Loader.TraitTable) : List (ShapeId × Trait) := table.flatMap fun e => rowApps e.1 e.2

end Loader.TraitTable

/-- A trait table holds the trait applications `done`: its targets and each
row's traits are in ID order, and a trait is in the row of a target exactly
when it was applied to it. -/
structure Loader.TraitTable.Holds (table : Loader.TraitTable) (done : List (ShapeId × Trait)) : Prop where
  sorted : Sorted ShapeId.compare Prod.fst table
  rows_sorted : ∀ e ∈ table, Sorted ShapeId.compare Prod.fst e.2
  mem_iff : ∀ X t, (t.id, t.value, t.source) ∈ (table.lookup X).getD [] ↔ (X, t) ∈ done

namespace Loader.TraitTable.Holds

variable {table : TraitTable} {done : List (ShapeId × Trait)}

theorem empty : TraitTable.Holds [] [] := ⟨List.Pairwise.nil, by simp, by simp⟩

theorem row_sorted (h : table.Holds done) (X : ShapeId) :
    Sorted ShapeId.compare Prod.fst ((table.lookup X).getD []) := by
  cases hX : table.lookup X with
  | none => exact List.Pairwise.nil
  | some row =>
    rw [lookup_eq_find?, Option.map_eq_some_iff] at hX
    obtain ⟨e, he, rfl⟩ := hX
    exact h.rows_sorted e (List.mem_of_find?_eq_some he)

/-- A trait not yet applied to a target is not in its row. -/
theorem lookup_eq_none (h : table.Holds done) {X : ShapeId} {t : Trait}
    (hfresh : (X, t.id) ∉ done.map fun a => (a.1, a.2.id)) :
    ((table.lookup X).getD []).lookup t.id = none := by
  refine lookup_eq_none_iff.mpr fun ⟨id, v, src⟩ hp hid => hfresh ?_
  have hdone := (h.mem_iff X ⟨id, v, src⟩).mp hp
  exact List.mem_map.mpr ⟨_, hdone, Prod.ext rfl hid⟩

/-- Putting a trait not yet applied to a target into its row holds one more
application. -/
theorem put (h : table.Holds done) {X : ShapeId} {t : Trait}
    (hfresh : (X, t.id) ∉ done.map fun a => (a.1, a.2.id)) :
    Loader.TraitTable.Holds (putById table X (putById ((table.lookup X).getD []) t.id (t.value, t.source)))
      (done ++ [(X, t)]) := by
  have hrow := h.row_sorted X
  have hnone := lookup_eq_none_iff.mp (h.lookup_eq_none hfresh)
  rw [putById_eq, putById_eq]
  refine ⟨h.sorted.put _, fun e he => ?_, fun Y u => ?_⟩
  · rcases mem_put he with rfl | he
    · exact hrow.put _
    · exact h.rows_sorted e he
  · rw [lookup_put]
    by_cases hXY : X = Y
    · subst hXY
      rw [if_pos rfl, Option.getD_some, mem_put_of_fresh hnone, h.mem_iff, List.mem_append]
      rcases t with ⟨id, v, src⟩
      rcases u with ⟨id', v', src'⟩
      simp [or_comm]
    · rw [if_neg hXY, h.mem_iff, List.mem_append]
      simp [Ne.symm hXY]

/-- A table holds its applications, row by row. -/
theorem mem_apps (h : table.Holds done) (a : ShapeId × Trait) : a ∈ TraitTable.apps table ↔ a ∈ done := by
  have hkeys : Sorted ShapeId.compare Prod.fst table := h.sorted
  rcases a with ⟨X, t⟩
  rw [← h.mem_iff]
  simp only [TraitTable.apps, TraitTable.rowApps, List.mem_flatMap, List.mem_map]
  constructor
  · rintro ⟨e, he, r, hr, hre⟩
    simp only [Prod.mk.injEq] at hre
    obtain ⟨rfl, rfl⟩ := hre
    rw [hkeys.lookup_of_mem he]
    simpa using hr
  · intro hmem
    cases hX : table.lookup X with
    | none => simp [hX] at hmem
    | some row =>
      rw [hX, Option.getD_some] at hmem
      rw [lookup_eq_find?, Option.map_eq_some_iff] at hX
      obtain ⟨e, he, rfl⟩ := hX
      have hX' : e.1 = X := by simpa using List.find?_some he
      exact ⟨e, List.mem_of_find?_eq_some he, _, hmem, by simp [hX']⟩

/-- A table has one application per target and trait. -/
theorem apps_keys_nodup (h : table.Holds done) :
    ((TraitTable.apps table).map fun a => (a.1, a.2.id)).Nodup := by
  simp only [TraitTable.apps, List.map_flatMap]
  refine List.nodup_flatMap.mpr ⟨fun e he => ?_, ?_⟩
  · have heq : (TraitTable.rowApps e.1 e.2).map (fun a => (a.1, a.2.id)) = (e.2.map Prod.fst).map (e.1, ·) := by
      simp [TraitTable.rowApps, Function.comp_def]
    rw [heq]
    exact (h.rows_sorted e he).nodup_keys.map fun _ _ hab => (Prod.mk.inj hab).2
  · refine (h.sorted.imp fun {e e'} hlt => ?_)
    intro a ha ha'
    simp only [TraitTable.rowApps, List.map_map, List.mem_map, Function.comp] at ha ha'
    obtain ⟨r, -, rfl⟩ := ha
    obtain ⟨r', -, hr'⟩ := ha'
    exact ShapeId.ne_of_compare_lt hlt (Prod.mk.inj hr').1.symm

end Loader.TraitTable.Holds

/-- A trait application read back, waiting for its absolute name to resolve. -/
def Model.pendingOf (a : ShapeId × Trait) : PendingTrait := ⟨a.1, .resolved a.2.id, a.2.value, a.2.source⟩

/-- Collecting applications to declared shapes, each under a name that resolves
and with a value its coercion keeps, one per target and trait, adds no event
and fills the table with exactly them. -/
theorem foldl_collectTrait_holds (l : Loader) (defs declared : List ShapeId)
    (ps : List (ShapeId × Trait))
    (hok : ∀ a ∈ ps, a.1 ∈ declared ∧ Loader.resolveTraitName defs (.resolved a.2.id) = some a.2.id ∧
      coerceTraitValue a.2.value (l.definitionType a.2.id) = a.2.value)
    {done : List (ShapeId × Trait)} {table : Loader.TraitTable} (h : table.Holds done)
    (hnd : ((done ++ ps).map fun a => (a.1, a.2.id)).Nodup) :
    ∃ table', (ps.map Model.pendingOf).foldl (l.collectTrait defs declared) ([], table) = ([], table') ∧
      table'.Holds (done ++ ps) := by
  induction ps generalizing done table with
  | nil => exact ⟨table, rfl, by simpa using h⟩
  | cons a rest ih =>
    obtain ⟨hdecl, hres, hcoerce⟩ := hok a List.mem_cons_self
    -- the application is the first of its trait on its target
    have hfresh : (a.1, a.2.id) ∉ done.map fun a => (a.1, a.2.id) := by
      rw [List.map_append, List.map_cons] at hnd
      exact (List.nodup_middle.mp hnd |> List.nodup_cons.mp).1 ∘ List.mem_append_left _
    have hstep := l.collectTrait_fresh defs declared a.2.value a.2.source hdecl hres (h.lookup_eq_none hfresh)
    rw [hcoerce] at hstep
    rw [List.map_cons, List.foldl_cons]
    simp only [Model.pendingOf] at hstep ⊢
    rw [hstep]
    obtain ⟨table', hfold, hholds⟩ := ih (fun b hb => hok b (List.mem_cons_of_mem a hb)) (h.put hfresh)
      (by simpa using hnd)
    exact ⟨table', hfold, by simpa using hholds⟩

/-! ## §5. Applying the trait values -/

namespace Shape.Rereadable

variable {s : Shape} (hs : s.Rereadable)
include hs

theorem id_isMember : s.id.isMember = false := by
  rw [hs.wellFormed.id_isMember, hs.not_member]

theorem member_id {x : Member} (hx : x ∈ s.body.members) :
    x.id.isMember = true ∧ x.id.withoutMember = s.id :=
  hs.wellFormed.member_id x.toShape (List.mem_map_of_mem hx)

theorem member_ids_nodup : (s.body.members.map (·.id)).Nodup := by
  simpa [Shape.memberShapes_eq, Function.comp_def, Member.toShape] using hs.wellFormed.ids_nodup

/-- Every ID a written shape's traits are applied to is the shape's own or a
member's, so its container is the shape. -/
theorem withoutMember_of_target {X : ShapeId} (hX : X = s.id ∨ ∃ x ∈ s.body.members, x.id = X) :
    X.withoutMember = s.id := by
  rcases hX with rfl | ⟨x, hx, rfl⟩
  · exact ShapeId.withoutMember_eq_self hs.id_isMember
  · exact (hs.member_id hx).2

/-- A shape's bound traits do not change where an ID that is no target of it
gets new ones. -/
theorem bound_update {X : ShapeId} (hX : X.withoutMember ≠ s.id) (loc : Locator)
    (g : ShapeId → TraitMap) (ts : TraitMap) :
    s.bound loc (Function.update g X ts) = s.bound loc g := by
  have hself : s.id ≠ X := fun h => hX (h ▸ ShapeId.withoutMember_eq_self hs.id_isMember)
  simp only [Shape.bound, Function.update_of_ne hself]
  congr 1
  refine List.map_congr_left fun x hx => ?_
  have hx' : x.id ≠ X := fun h => hX (h ▸ (hs.member_id hx).2)
  rw [Function.update_of_ne hx']

/-- Every ID a written shape applies a trait to has the shape as its container. -/
theorem withoutMember_of_mem_traitApps {a : ShapeId × Trait} (ha : a ∈ s.traitApps) :
    a.1.withoutMember = s.id := by
  rcases Shape.mem_traitApps.mp ha with ⟨x, hx, hX, -⟩ | ⟨hX, -⟩
  · exact hs.withoutMember_of_target (.inr ⟨x, hx, hX.symm⟩)
  · exact hs.withoutMember_of_target (.inl hX)

/-- A written shape applies each trait once to itself and once to each member. -/
theorem traitApps_keys_nodup (ho : s.Ordered) : (s.traitApps.map fun a => (a.1, a.2.id)).Nodup := by
  have hkeys : ∀ (X : ShapeId) (ts : TraitMap), Sorted ShapeId.compare Trait.id ts →
      ((ts.map (X, ·)).map fun a => (a.1, a.2.id)).Nodup := fun X ts hts => by
    have heq : (ts.map (X, ·)).map (fun a => (a.1, a.2.id)) = (ts.map Trait.id).map (X, ·) := by
      simp [Function.comp_def]
    rw [heq]
    exact hts.nodup_keys.map fun _ _ h => (Prod.mk.inj h).2
  simp only [Shape.traitApps, List.map_append, List.map_flatMap]
  refine List.nodup_append.mpr ⟨?_, hkeys s.id s.traits ho.traits, ?_⟩
  · refine List.nodup_flatMap.mpr ⟨fun x hx => hkeys x.id x.traits (ho.member_traits x hx), ?_⟩
    -- the members' IDs are distinct
    have hne : s.body.members.Pairwise fun x y => x.id ≠ y.id := List.pairwise_map.mp hs.member_ids_nodup
    refine hne.imp fun {x y} hxy a hax hay => ?_
    simp only [List.map_map, List.mem_map, Function.comp_def] at hax hay
    obtain ⟨t, -, rfl⟩ := hax
    obtain ⟨u, -, hu⟩ := hay
    exact hxy (Prod.mk.inj hu).1.symm
  · -- a member's ID is never the shape's
    intro a ha b hb hab
    simp only [List.mem_flatMap, List.map_map, List.mem_map, Function.comp_def] at ha hb
    obtain ⟨x, hx, t, -, rfl⟩ := ha
    obtain ⟨u, -, rfl⟩ := hb
    have h1 := (hs.member_id hx).1
    rw [(Prod.mk.inj hab).1, hs.id_isMember] at h1
    cases h1

end Shape.Rereadable

/-- A model's document applies each trait at most once to each ID. -/
theorem Model.Reloadable.writtenApps_keys_nodup {m : Model} (hr : m.Reloadable) :
    (m.writtenApps.map fun a => (a.1, a.2.id)).Nodup := by
  simp only [Model.writtenApps, List.map_flatMap]
  refine List.nodup_flatMap.mpr ⟨fun s hs => (hr.rereadable s hs).traitApps_keys_nodup (hr.ordered s hs), ?_⟩
  -- two written shapes apply traits to IDs of different containers
  refine hr.written_sorted.imp_of_mem fun {s s'} hs hs' hlt a ha ha' => ?_
  obtain ⟨b, hb, rfl⟩ := List.mem_map.mp ha
  obtain ⟨b', hb', hbb'⟩ := List.mem_map.mp ha'
  have hc := (hr.rereadable s hs).withoutMember_of_mem_traitApps hb
  have hc' := (hr.rereadable s' hs').withoutMember_of_mem_traitApps hb'
  rw [(Prod.mk.inj hbb').1, hc] at hc'
  exact ShapeId.ne_of_compare_lt hlt hc'

namespace Model

variable {m : Model} {loc : Locator} {ns : Option String}

/-- The loader after collecting, with the traits `g` gives each ID applied to
the declarations. -/
def rereadApplied (m : Model) (loc : Locator) (ns : Option String) (g : ShapeId → TraitMap) : Loader :=
  { m.rereadState loc ns with traits := [], shapes := m.written.map fun s => (s.id, [s.bound loc g]) }

@[simp] theorem rereadApplied_factory (g : ShapeId → TraitMap) :
    (m.rereadApplied loc ns g).factory = .builtin := rfl

/-- A written shape's declarations are found under its ID. -/
theorem lookup_written_map (hsorted : Sorted ShapeId.compare Shape.id m.written) {s : Shape}
    (hs : s ∈ m.written) {β : Type} (f : Shape → β) :
    (m.written.map fun s => (s.id, f s)).lookup s.id = some (f s) :=
  Sorted.lookup_of_mem (by simpa [Sorted, List.pairwise_map] using hsorted)
    (List.mem_map_of_mem (f := fun s => (s.id, f s)) hs)

/-- Putting new declarations under a written shape's ID changes its entry only. -/
theorem putById_written_map (hsorted : Sorted ShapeId.compare Shape.id m.written) {s : Shape}
    (hs : s ∈ m.written) {β : Type} (f f' : Shape → β) (hf : ∀ s' ∈ m.written, s'.id ≠ s.id → f' s' = f s') :
    putById (m.written.map fun s => (s.id, f s)) s.id (f' s) = m.written.map fun s => (s.id, f' s) := by
  have hmap : Sorted ShapeId.compare Prod.fst (m.written.map fun s => (s.id, f s)) := by
    simpa [Sorted, List.pairwise_map] using hsorted
  rw [putById_eq, hmap.put_eq_map (x := (s.id, f' s)) (y := (s.id, f s))
    (List.mem_map_of_mem (f := fun s => (s.id, f s)) hs) rfl, List.map_map]
  refine List.map_congr_left fun s' hs' => ?_
  by_cases hid : s'.id = s.id
  · -- one written shape per ID
    have heq : s' = s := List.inj_on_of_nodup_map hsorted.nodup_keys hs' hs hid
    subst heq
    simp
  · simp [hid, hf s' hs' hid]


/-- **Applying a trait to a written shape or member** that does not carry it
yet adds it to the traits of that ID, and changes nothing else. -/
theorem applyTrait_rereadApplied (hr : m.Reloadable) {g : ShapeId → TraitMap} {s : Shape}
    (hs : s ∈ m.written) {X : ShapeId} (hX : X = s.id ∨ ∃ x ∈ s.body.members, x.id = X) {t : Trait}
    (ht : (g X).get? t.id = none) :
    (m.rereadApplied loc ns g).applyTrait X t =
      m.rereadApplied loc ns (Function.update g X ((g X).insert t)) := by
  have hrs := hr.rereadable s hs
  have hcont := hrs.withoutMember_of_target hX
  have hlookup : (m.rereadApplied loc ns g).shapes.lookup s.id = some [s.bound loc g] :=
    lookup_written_map hr.written_sorted hs _
  -- the declarations of every other written shape stay as they are
  have hother : ∀ s' ∈ m.written, s'.id ≠ s.id →
      [s'.bound loc (Function.update g X ((g X).insert t))] = [s'.bound loc g] := fun s' hs' hid => by
    rw [(hr.rereadable s' hs').bound_update (by rw [hcont]; exact Ne.symm hid)]
  simp only [Loader.applyTrait, hcont, hlookup, List.map_cons, List.map_nil]
  rcases hX with rfl | ⟨x, hx, rfl⟩
  · have hmerge : Loader.mergeInto (s.bound loc g).builder t = ((s.bound loc g).builder.addTrait t, none) :=
      Loader.mergeInto_of_get?_eq_none (by simpa [Shape.bound] using ht)
    simp only [hrs.id_isMember, Bool.false_eq_true, if_false, hmerge, List.head?_cons, Option.bind_some]
    have hnew : { s.bound loc g with builder := (s.bound loc g).builder.addTrait t } =
        s.bound loc (Function.update g s.id ((g s.id).insert t)) := by
      simp only [Shape.bound, Builder.addTrait, Function.update_self]
      congr 1
      refine List.map_congr_left fun y hy => ?_
      have hne : y.id ≠ s.id := fun h => by
        have := (hrs.member_id hy).1
        rw [h, hrs.id_isMember] at this
        cases this
      rw [Function.update_of_ne hne]
    rw [hnew]
    simp only [rereadApplied]
    rw [putById_written_map hr.written_sorted hs _ (fun s' => [s'.bound loc _]) hother]
  · have hxm := (hrs.member_id hx).1
    have hnd : ((s.bound loc g).members.map (·.builder.id)).Nodup := by
      simpa [Shape.bound, Function.comp_def] using hrs.member_ids_nodup.map fun _ _ h => Option.some.inj h
    have hfind : (s.bound loc g).members.find? (fun y => y.builder.id == some x.id) =
        some (x.bound (loc.key x.name (loc.key s.id.text 0).2).1 (g x.id)) := by
      rw [find?_key_eq_some_iff hnd]
      exact ⟨List.mem_map_of_mem hx, rfl⟩
    have hmerge := Loader.mergeInto_of_get?_eq_none (b := (x.bound (loc.key x.name (loc.key s.id.text 0).2).1 (g x.id)).builder) ht
    simp only [hxm, if_true, hfind, hmerge, foldl_replaceFirst _ _ hnd, List.nil_append, List.head?_cons,
      Option.bind_some]
    have hself : s.id ≠ x.id := fun h => by
      have := hrs.id_isMember
      rw [h, hxm] at this
      cases this
    -- the member with the ID is `x` itself
    have hnew : { s.bound loc g with
        members := (s.bound loc g).members.map fun y => if y.builder.id = some x.id then
          { y with builder := (x.bound (loc.key x.name (loc.key s.id.text 0).2).1 (g x.id)).builder.addTrait t }
          else y } = s.bound loc (Function.update g x.id ((g x.id).insert t)) := by
      simp only [Shape.bound, List.map_map, Function.update_of_ne hself]
      congr 1
      refine List.map_congr_left fun y hy => ?_
      by_cases hyx : y.id = x.id
      · have hyx' : y = x := List.inj_on_of_nodup_map hrs.member_ids_nodup hy hx hyx
        subst hyx'
        simp [Member.bound, Builder.addTrait, Builder.setTarget, Builder.setSource, Builder.setId]
      · simp [hyx]
    rw [hnew]
    simp only [rereadApplied]
    rw [putById_written_map hr.written_sorted hs _ (fun s' => [s'.bound loc _]) hother]


/-- The traits `g` gives each ID are in ID order, and are exactly the trait
applications `done` to that ID. -/
structure Carries (g : ShapeId → TraitMap) (done : List (ShapeId × Trait)) : Prop where
  sorted : ∀ X, Sorted ShapeId.compare Trait.id (g X)
  mem_iff : ∀ X t, t ∈ g X ↔ (X, t) ∈ done

namespace Carries

variable {g : ShapeId → TraitMap} {done : List (ShapeId × Trait)}

theorem empty : Carries (fun _ => []) [] := ⟨fun _ => List.Pairwise.nil, by simp⟩

/-- A trait not yet applied to an ID is not among its traits. -/
theorem get?_eq_none (h : Carries g done) {X : ShapeId} {t : Trait}
    (hfresh : (X, t.id) ∉ done.map fun a => (a.1, a.2.id)) : (g X).get? t.id = none := by
  rw [TraitMap.get?, List.find?_eq_none]
  intro u hu hid
  exact hfresh (List.mem_map.mpr ⟨(X, u), (h.mem_iff X u).mp hu, by simpa using hid⟩)

/-- Adding a trait not yet applied to an ID carries one more application. -/
theorem insert (h : Carries g done) {X : ShapeId} {t : Trait}
    (hfresh : (X, t.id) ∉ done.map fun a => (a.1, a.2.id)) :
    Carries (Function.update g X ((g X).insert t)) (done ++ [(X, t)]) := by
  have hnone : ∀ y ∈ g X, y.id ≠ t.id := fun y hy hid => by
    have := h.get?_eq_none hfresh
    rw [TraitMap.get?, List.find?_eq_none] at this
    exact this y hy (by simp [hid])
  refine ⟨fun Y => ?_, fun Y u => ?_⟩
  · by_cases hY : Y = X
    · subst hY
      rw [Function.update_self, TraitMap.insert_eq]
      exact (h.sorted Y).put t
    · rw [Function.update_of_ne hY]
      exact h.sorted Y
  · by_cases hY : Y = X
    · subst hY
      rw [Function.update_self, TraitMap.insert_eq, mem_put_of_fresh hnone, h.mem_iff, List.mem_append]
      simp [or_comm]
    · rw [Function.update_of_ne hY, h.mem_iff, List.mem_append]
      simp [hY]

end Carries

/-- The loader that collected nothing has applied no trait. -/
theorem rereadApplied_empty (m : Model) (loc : Locator) (ns : Option String) :
    { (m.rereadState loc ns).resolved with traits := [], events := [] } =
      m.rereadApplied loc ns fun _ => [] := by
  rw [rereadState_resolved]
  rfl

/-- Applying a row of settled trait values of one written shape or member, none
applied to it before, adds them to its traits. -/
theorem applyRow_rereadApplied (loc : Locator) (ns : Option String) (hr : m.Reloadable)
    {g : ShapeId → TraitMap}
    {done : List (ShapeId × Trait)} (hg : Carries g done) {X : ShapeId}
    (row : List (ShapeId × Node × SourceLocation)) (hX : row ≠ [] → m.Targets X)
    (hacc : ∀ e ∈ row, TraitFactory.builtin.Accepts e.1 e.2.1)
    (hnd : ((done ++ Loader.TraitTable.rowApps X row).map fun a => (a.1, a.2.id)).Nodup) :
    ∃ g', (m.rereadApplied loc ns g).applyRow X row = m.rereadApplied loc ns g' ∧
      Carries g' (done ++ Loader.TraitTable.rowApps X row) := by
  induction row generalizing g done with
  | nil => exact ⟨g, rfl, by simpa [Loader.TraitTable.rowApps] using hg⟩
  | cons e rest ih =>
    obtain ⟨s, hs, hXs⟩ := hX (List.cons_ne_nil _ _)
    obtain ⟨id, v, src⟩ := e
    have hfresh : (X, id) ∉ done.map fun a => (a.1, a.2.id) := by
      rw [Loader.TraitTable.rowApps, List.map_cons, List.map_append, List.map_cons] at hnd
      exact (List.nodup_middle.mp hnd |> List.nodup_cons.mp).1 ∘ List.mem_append_left _
    have hcreate : TraitFactory.builtin.create id v src = .ok ⟨id, v, src⟩ :=
      TraitFactory.create_eq_ok_iff.mpr ⟨hacc _ List.mem_cons_self, rfl⟩
    have hstep : (m.rereadApplied loc ns g).applyTrait X ⟨id, v, src⟩ =
        m.rereadApplied loc ns (Function.update g X ((g X).insert ⟨id, v, src⟩)) :=
      applyTrait_rereadApplied hr hs hXs (hg.get?_eq_none (t := ⟨id, v, src⟩) hfresh)
    obtain ⟨g', hfold, hg'⟩ := ih (hg.insert (t := ⟨id, v, src⟩) hfresh)
      (fun _ => ⟨s, hs, hXs⟩) (fun e he => hacc e (List.mem_cons_of_mem _ he))
      (by simpa [Loader.TraitTable.rowApps] using hnd)
    refine ⟨g', ?_, by simpa [Loader.TraitTable.rowApps] using hg'⟩
    rw [Loader.applyRow, List.foldl_cons]
    simp only [rereadApplied_factory, hcreate]
    rw [hstep]
    exact hfold


theorem Carries.congr {g : ShapeId → TraitMap} {d d' : List (ShapeId × Trait)} (h : Carries g d)
    (hd : ∀ a, a ∈ d ↔ a ∈ d') : Carries g d' :=
  ⟨h.sorted, fun X t => (h.mem_iff X t).trans (hd (X, t))⟩

/-- Applying a table of settled values for written shapes and members, none
applied before, adds them to the traits of their targets. -/
theorem foldl_applyRow_rereadApplied (loc : Locator) (ns : Option String) (hr : m.Reloadable)
    (table : Loader.TraitTable)
    (htargets : ∀ a ∈ Loader.TraitTable.apps table, m.Targets a.1)
    (hacc : ∀ a ∈ Loader.TraitTable.apps table, TraitFactory.builtin.Accepts a.2.id a.2.value)
    {g : ShapeId → TraitMap} {done : List (ShapeId × Trait)} (hg : Carries g done)
    (hnd : ((done ++ Loader.TraitTable.apps table).map fun a => (a.1, a.2.id)).Nodup) :
    ∃ g', table.foldl (fun l (target, row) => l.applyRow target row) (m.rereadApplied loc ns g) =
        m.rereadApplied loc ns g' ∧ Carries g' (done ++ Loader.TraitTable.apps table) := by
  induction table generalizing g done with
  | nil => exact ⟨g, rfl, by simpa [Loader.TraitTable.apps] using hg⟩
  | cons e rest ih =>
    obtain ⟨X, row⟩ := e
    have happs : Loader.TraitTable.apps ((X, row) :: rest) =
        Loader.TraitTable.rowApps X row ++ Loader.TraitTable.apps rest := rfl
    rw [happs, ← List.append_assoc] at hnd
    obtain ⟨g₁, hrow, hg₁⟩ := applyRow_rereadApplied loc ns hr hg row
      (fun hne => by
        obtain ⟨r, rs, rfl⟩ := List.exists_cons_of_ne_nil hne
        exact htargets (X, ⟨r.1, r.2.1, r.2.2⟩) (by rw [happs]; simp [Loader.TraitTable.rowApps]))
      (fun r hr' => hacc _ (by
        rw [happs]
        exact List.mem_append_left _ (List.mem_map_of_mem hr')))
      (List.Nodup.sublist (by simp) hnd)
    obtain ⟨g', hfold, hg'⟩ := ih (fun a ha => htargets a (by rw [happs]; exact List.mem_append_right _ ha))
      (fun a ha => hacc a (by rw [happs]; exact List.mem_append_right _ ha)) hg₁ hnd
    refine ⟨g', ?_, by rwa [happs, ← List.append_assoc]⟩
    rw [List.foldl_cons]
    simp only
    rw [hrow]
    exact hfold


/-- **The traits of a reread model are finished** without an event when every
trait it applies is defined: each written shape and member gets exactly the
traits it is written with, read back. -/
theorem rereadState_finalized (hr : m.Reloadable) (hdef : m.TraitsDefined) (loc : Locator)
    (ns : Option String) :
    ∃ g, (m.rereadState loc ns).finalized = m.rereadApplied loc ns g ∧ Carries g (m.rereadPairs loc) := by
  have hnd : ((m.rereadPairs loc).map fun a => (a.1, a.2.id)).Nodup := by
    rw [rereadPairs_keys]
    exact hr.writtenApps_keys_nodup
  -- every application read back is declared, resolves and keeps its value
  have hok : ∀ a ∈ m.rereadPairs loc, a.1 ∈ (m.rereadState loc ns).declaredIds ∧
      Loader.resolveTraitName (m.rereadState loc ns).resolved.definitionIds (.resolved a.2.id) = some a.2.id ∧
      coerceTraitValue a.2.value ((m.rereadState loc ns).resolved.definitionType a.2.id) = a.2.value := by
    intro a ha
    obtain ⟨b, hb, -, hid, hval⟩ := exists_writtenApps_of_mem_rereadPairs ha
    refine ⟨mem_declaredIds_of_targets (targets_of_mem_rereadPairs ha), ?_, ?_⟩
    · apply Loader.resolveTraitName_resolved
      rw [mem_rereadState_definitionIds, ← hid]
      rcases hdef b hb with h | h | h
      · exact .inr h
      · exact .inl (.inr h)
      · exact .inl (.inl h)
    · rw [rereadState_definitionType, ← hid, ← hval]
      exact (hr.settled b hb).coerced
  have htraits : (m.rereadState loc ns).resolved.traits = (m.rereadPairs loc).map pendingOf := by
    rw [rereadState_resolved, rereadState_traits]
    rfl
  obtain ⟨table, hcollect, hholds⟩ := foldl_collectTrait_holds (m.rereadState loc ns).resolved
    (m.rereadState loc ns).resolved.definitionIds (m.rereadState loc ns).declaredIds (m.rereadPairs loc)
    hok Loader.TraitTable.Holds.empty (by simpa using hnd)
  have happs : ∀ a, a ∈ Loader.TraitTable.apps table ↔ a ∈ m.rereadPairs loc := fun a => by
    simpa using hholds.mem_apps a
  obtain ⟨g, hfold, hg⟩ := foldl_applyRow_rereadApplied loc ns hr table
    (fun a ha => targets_of_mem_rereadPairs ((happs a).mp ha))
    (fun a ha => by
      obtain ⟨b, hb, -, hid, hval⟩ := exists_writtenApps_of_mem_rereadPairs ((happs a).mp ha)
      rw [← hid, ← hval]
      exact (hr.settled b hb).accepted)
    Carries.empty (by simpa using hholds.apps_keys_nodup)
  refine ⟨g, ?_, hg.congr fun a => by simpa using happs a⟩
  have hev : (m.rereadState loc ns).resolved.events = [] := by
    rw [rereadState_resolved]
    rfl
  rw [Loader.finalized, Loader.finalizeTraits_eq]
  simp only [htraits, hev, hcollect]
  rw [← rereadApplied_empty] at hfold
  exact hfold

end Model


/-! ## §6. The declarations built back -/

section Bind

/-- Binding errors appends them. -/
theorem foldl_apply_error (xs : List ShapeId) (b : Builder) :
    (xs.map (·, Binding.error)).foldl (fun b x => x.2.apply b x.1) b =
      { b with operation := { b.operation with errors := b.operation.errors ++ xs } } := by
  induction xs generalizing b with
  | nil => simp
  | cons x rest ih =>
    rw [List.map_cons, List.foldl_cons, ih]
    simp [Binding.apply, Builder.addError]

/-- Binding operations to a resource appends them to its operations. -/
theorem foldl_apply_operation_resource (xs : List ShapeId) {b : Builder} (h : b.type = .resource) :
    (xs.map (·, Binding.operation)).foldl (fun b x => x.2.apply b x.1) b =
      { b with resource := { b.resource with operations := b.resource.operations ++ xs } } := by
  induction xs generalizing b with
  | nil => simp
  | cons x rest ih =>
    rw [List.map_cons, List.foldl_cons, ih (by simp [h])]
    simp [Binding.apply, Builder.addOperation, h]

/-- Binding resources to a resource appends them to its resources. -/
theorem foldl_apply_resource_resource (xs : List ShapeId) {b : Builder} (h : b.type = .resource) :
    (xs.map (·, Binding.resource)).foldl (fun b x => x.2.apply b x.1) b =
      { b with resource := { b.resource with resources := b.resource.resources ++ xs } } := by
  induction xs generalizing b with
  | nil => simp
  | cons x rest ih =>
    rw [List.map_cons, List.foldl_cons, ih (by simp [h])]
    simp [Binding.apply, Builder.addResource, h]

/-- Binding operations to a service appends them to its operations. -/
theorem foldl_apply_operation_service (xs : List ShapeId) {b : Builder} (h : b.type ≠ .resource) :
    (xs.map (·, Binding.operation)).foldl (fun b x => x.2.apply b x.1) b =
      { b with service := { b.service with operations := b.service.operations ++ xs } } := by
  induction xs generalizing b with
  | nil => simp
  | cons x rest ih =>
    rw [List.map_cons, List.foldl_cons, ih (by simp [h])]
    simp [Binding.apply, Builder.addOperation, h]

/-- Binding resources to a service appends them to its resources. -/
theorem foldl_apply_resource_service (xs : List ShapeId) {b : Builder} (h : b.type ≠ .resource) :
    (xs.map (·, Binding.resource)).foldl (fun b x => x.2.apply b x.1) b =
      { b with service := { b.service with resources := b.service.resources ++ xs } } := by
  induction xs generalizing b with
  | nil => simp
  | cons x rest ih =>
    rw [List.map_cons, List.foldl_cons, ih (by simp [h])]
    simp [Binding.apply, Builder.addResource, h]

/-- Binding identifiers puts them by name. -/
theorem foldl_apply_identifier (ids : List (String × ShapeId)) (b : Builder) :
    (ids.map fun (n, id) => (id, Binding.identifier n)).foldl (fun b x => x.2.apply b x.1) b =
      { b with resource := { b.resource with
          identifiers := ids.foldl (put compare Prod.fst) b.resource.identifiers } } := by
  induction ids generalizing b with
  | nil => simp
  | cons x rest ih =>
    rw [List.map_cons, List.foldl_cons, ih]
    simp [Binding.apply, Builder.setIdentifier, ResourceData.putIdentifier_eq]

/-- Binding a resource's lifecycle operations sets each one it has. -/
theorem foldl_apply_lifecycle (r : ResourceData) (b : Builder) :
    (r.lifecycle.filterMap fun (n, o) => o.map (·, Binding.lifecycle n)).foldl (fun b x => x.2.apply b x.1) b =
      { b with resource := { b.resource with create := r.create.or b.resource.create,
                                             read := r.read.or b.resource.read,
                                             update := r.update.or b.resource.update,
                                             delete := r.delete.or b.resource.delete,
                                             list := r.list.or b.resource.list } } := by
  rcases r with ⟨ids, c, rd, u, d, li, ops, rs⟩
  cases c <;> cases rd <;> cases u <;> cases d <;> cases li <;>
    simp [ResourceData.lifecycle, Binding.apply, Builder.setLifecycle]

end Bind


/-- Binding the IDs of a written shape onto the builder it reads back as gives
its own builder, with the place of its key and without traits or members. -/
theorem Shape.Rereadable.bind_rereadBuilder {s : Shape} (hs : s.Rereadable) (ho : s.Ordered)
    (source : SourceLocation) :
    s.body.bind (s.rereadBuilder source) = { s.toBuilder with source, traits := [], members := [] } := by
  rcases s with ⟨id, body, traits, src⟩
  have hnm := hs.not_member
  have hids := ho.identifiers
  cases body with
  | member t => simp [Shape.isMember, Shape.type, Body.type] at hnm
  | operation op =>
    rcases op with ⟨input, output, errors⟩
    simp only [Body.bind, Body.bindings, List.foldl_append, foldl_apply_error]
    cases input <;> cases output <;>
      simp [Shape.rereadBuilder, Shape.toBuilder, Shape.type, Body.type, Builder.new, Builder.setId,
        Builder.setSource, Binding.apply, Builder.setInput, Builder.setOutput]
  | resource r =>
    have hsorted : Sorted compare Prod.fst ([] ++ r.identifiers) := by simpa using hids r rfl
    simp only [Body.bind, Body.bindings, List.foldl_append, foldl_apply_identifier, foldl_apply_lifecycle]
    rw [foldl_apply_operation_resource _ (by simp [Shape.type, Body.type]),
      foldl_apply_resource_resource _ (by simp [Shape.type, Body.type])]
    simp [Shape.rereadBuilder, Shape.toBuilder, Shape.type, Body.type, Builder.new, Builder.setId,
      Builder.setSource, foldl_put_of_sorted hsorted]
  | service sv =>
    simp only [Body.bind, Body.bindings, List.foldl_append]
    rw [foldl_apply_operation_service _ (by simp [Shape.type, Body.type]),
      foldl_apply_resource_service _ (by simp [Shape.type, Body.type])]
    simp [Shape.rereadBuilder, Shape.toBuilder, Shape.type, Body.type, Builder.new, Builder.setId,
      Builder.setSource, Builder.setVersion]
  | _ =>
    simp [Body.bind, Body.bindings, Shape.rereadBuilder, Shape.toBuilder, Shape.type, Body.type,
      Builder.new, Builder.setId, Builder.setSource]

end ShapeKit
