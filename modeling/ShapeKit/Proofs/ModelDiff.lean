import ShapeKit.Proofs.TraitConflicts
import ShapeKit.Proofs.ValueEquality
import ShapeKit.Diff

/-!
# Comparing two models: completeness and duality

`compareModels old new` reports, outside the prelude, every shape of `old`
missing from `new` (a member only while its container stays), every shape of
`new` missing from `old` (a member only when its container was there), every
change of type, and for a shape that keeps its type every trait removed,
changed or added. `Reported` lists these rules; `mem_compareModels_iff` says
the comparison reports exactly the events the rules give.

For two models built the usual way (`Model.Comparable`: one shape per ID, every
member owned by its container, one trait per ID, no repeated key in a trait
value) two facts follow:

  * the comparison reports nothing exactly when both models hold the same
    shapes outside the prelude, with the same types and the same traits
    (`compareModels_eq_nil_iff`). A member missing on one side with its
    container is covered by the container's own event, which ownership
    guarantees;
  * comparing the other way round swaps additions and removals, of shapes
    and of traits, and reports the same type changes and trait changes
    (`TraitChanged.swap`: value equality is symmetric, `Node.equal_comm`).

Main statement: `compareModels_complete_and_dual`.
-/

namespace ShapeKit

open Json

/-! ## §1. The events of a comparison, rule by rule -/

theorem mem_sortByShape {e : Event} {es : List Event} : e ∈ sortByShape es ↔ e ∈ es :=
  (List.mergeSort_perm _ _).mem_iff

@[simp] theorem traitChangeEvent_id (m : Model) (s : Shape) (T : ShapeId) (c : TraitChange) (msg : String) :
    (traitChangeEvent m s T c msg).id = c.eventId := rfl

@[simp] theorem traitChangeEvent_shapeId (m : Model) (s : Shape) (T : ShapeId) (c : TraitChange)
    (msg : String) : (traitChangeEvent m s T c msg).shapeId = some s.id := rfl

@[simp] theorem traitChangeEvent_message (m : Model) (s : Shape) (T : ShapeId) (c : TraitChange)
    (msg : String) : (traitChangeEvent m s T c msg).message = msg := rfl

@[simp] theorem Event.withShape_id (e : Event) (s : Shape) : (e.withShape s).id = e.id := rfl

@[simp] theorem Event.withShape_shapeId (e : Event) (s : Shape) : (e.withShape s).shapeId = some s.id := rfl

@[simp] theorem Event.withShape_message (e : Event) (s : Shape) : (e.withShape s).message = e.message := rfl

/-- The events comparing `old` with `new` reports, one constructor per rule.
`S` is a shape of `old` outside the prelude and `N` the shape `new` holds
under its ID; an added shape is a shape of `new`. -/
inductive Reported (old new : Model) : Event → Prop
  /-- A shape `new` lacks; a member only while `new` holds its container. -/
  | removed {S : Shape} : S ∈ old.shapes → S.id.isPrelude = false → new.get? S.id = none →
      (S.isMember = true → new.contains S.id.withoutMember = true) →
      Reported old new
        { id := "RemovedShape", severity := .error, message := s!"Removed {S.type.name} `{S.id.text}`",
          shapeId := some S.id, source := S.source }
  | changedType {S N : Shape} : S ∈ old.shapes → S.id.isPrelude = false → new.get? S.id = some N →
      N.type ≠ S.type →
      Reported old new
        (({ id := "ChangedShapeType", severity := .error,
            message := s!"Shape `{S.id.text}` type changed from {S.type.name} to {N.type.name}" } : Event).withShape N)
  | removedTrait {S N : Shape} {t : Trait} : S ∈ old.shapes → S.id.isPrelude = false →
      new.get? S.id = some N → N.type = S.type → t ∈ S.traits → N.getTrait t.id = none →
      Reported old new
        (traitChangeEvent new N t.id .remove s!"Removed trait `{t.id.text}` from `{N.id.text}`")
  | modifiedTrait {S N : Shape} {t u : Trait} : S ∈ old.shapes → S.id.isPrelude = false →
      new.get? S.id = some N → N.type = S.type → t ∈ S.traits → N.getTrait t.id = some u →
      u.value.equal t.value = false →
      Reported old new
        (traitChangeEvent new N t.id .update
          s!"Changed trait `{t.id.text}` on `{N.id.text}` from `{t.value.compact}` to `{u.value.compact}`")
  | addedTrait {S N : Shape} {t : Trait} : S ∈ old.shapes → S.id.isPrelude = false →
      new.get? S.id = some N → N.type = S.type → t ∈ N.traits → S.hasTrait t.id = false →
      Reported old new (traitChangeEvent new N t.id .add s!"Added trait `{t.id.text}` to `{N.id.text}`")
  /-- A shape `old` lacks; a member only when `old` holds its container. -/
  | added {S : Shape} : S ∈ new.shapes → S.id.isPrelude = false → old.contains S.id = false →
      (S.isMember = true → old.contains S.id.withoutMember = true) →
      Reported old new
        (({ id := "AddedShape", severity := .note, message := s!"Added {S.type.name} `{S.id.text}`" } : Event).withShape S)

section Rules

variable {m : Model} {S N : Shape} {e : Event}

/-- The trait changes between two versions of a shape, rule by rule. -/
theorem mem_compareTraits_iff :
    e ∈ compareTraits m S N ↔
      (∃ t ∈ S.traits, N.getTrait t.id = none ∧
        e = traitChangeEvent m N t.id .remove s!"Removed trait `{t.id.text}` from `{N.id.text}`") ∨
      (∃ t ∈ S.traits, ∃ u, N.getTrait t.id = some u ∧ u.value.equal t.value = false ∧
        e = traitChangeEvent m N t.id .update
          s!"Changed trait `{t.id.text}` on `{N.id.text}` from `{t.value.compact}` to `{u.value.compact}`") ∨
      (∃ t ∈ N.traits, S.hasTrait t.id = false ∧
        e = traitChangeEvent m N t.id .add s!"Added trait `{t.id.text}` to `{N.id.text}`") := by
  unfold compareTraits
  rw [List.mem_append, List.mem_filterMap, List.mem_filterMap, ← or_assoc]
  apply or_congr _ _
  · constructor
    · rintro ⟨t, ht, he⟩
      split at he
      · next hN => exact .inl ⟨t, ht, hN, (Option.some.inj he).symm⟩
      · next u hN =>
        split at he
        · cases he
        · next hv => exact .inr ⟨t, ht, u, hN, by simpa using hv, (Option.some.inj he).symm⟩
    · rintro (⟨t, ht, hN, rfl⟩ | ⟨t, ht, u, hN, hv, rfl⟩)
      · exact ⟨t, ht, by simp [hN]⟩
      · exact ⟨t, ht, by simp [hN, hv]⟩
  · constructor
    · rintro ⟨t, ht, he⟩
      split at he
      · cases he
      · next hS => exact ⟨t, ht, by simpa using hS, (Option.some.inj he).symm⟩
    · rintro ⟨t, ht, hS, rfl⟩
      exact ⟨t, ht, by simp [hS]⟩

end Rules

/-- **The rules of comparison.** An event is reported exactly when one of the
rules gives it. -/
theorem mem_compareModels_iff {a b : Model} {e : Event} : e ∈ compareModels a b ↔ Reported a b e := by
  unfold compareModels
  rw [mem_sortByShape, List.mem_append, List.mem_flatMap, List.mem_filterMap]
  constructor
  · rintro (⟨S, hS, he⟩ | ⟨S, hS, he⟩)
    · obtain ⟨hS, hp⟩ := List.mem_filter.1 hS
      replace hp : S.id.isPrelude = false := by simpa using hp
      split at he
      · next hN =>
        split at he
        · next hc =>
          rw [List.mem_singleton] at he
          subst he
          exact .removed hS hp hN fun hm => by simpa [hm] using hc
        · cases he
      · next N hN =>
        split at he
        · next ht =>
          rw [List.mem_singleton] at he
          subst he
          exact .changedType hS hp hN (by simpa using ht)
        · next ht =>
          replace ht : N.type = S.type := by simpa using ht
          rcases mem_compareTraits_iff.1 he with ⟨t, ht', hN', rfl⟩ | ⟨t, ht', u, hN', hv, rfl⟩ |
              ⟨t, ht', hS', rfl⟩
          · exact .removedTrait hS hp hN ht ht' hN'
          · exact .modifiedTrait hS hp hN ht ht' hN' hv
          · exact .addedTrait hS hp hN ht ht' hS'
    · obtain ⟨hS, hp⟩ := List.mem_filter.1 hS
      replace hp : S.id.isPrelude = false := by simpa using hp
      split at he
      · cases he
      · split at he
        · cases he
        · next hc hm =>
          cases he
          exact .added hS hp (by simpa using hc) (by simpa using hm)
  · intro h
    -- each rule names the shape of `old` (or `new`) the event comes from
    have hfilter : ∀ {l : List Shape} {S : Shape}, S ∈ l → S.id.isPrelude = false →
        S ∈ l.filter fun s => !s.id.isPrelude := fun hS hp => List.mem_filter.2 ⟨hS, by simp [hp]⟩
    cases h with
    | @removed S hS hp hN hc =>
      refine .inl ⟨_, hfilter hS hp, ?_⟩
      -- a member is removed only while its container stays
      have hcond : (!S.isMember || b.contains S.id.withoutMember) = true := by
        cases hm : S.isMember
        · rfl
        · simpa using hc hm
      simp [hN, hcond]
    | changedType hS hp hN ht => exact .inl ⟨_, hfilter hS hp, by simp [hN, ht]⟩
    | removedTrait hS hp hN ht ht' hN' =>
      exact .inl ⟨_, hfilter hS hp, by simpa [hN, ht] using mem_compareTraits_iff.2 (.inl ⟨_, ht', hN', rfl⟩)⟩
    | modifiedTrait hS hp hN ht ht' hN' hv =>
      exact .inl ⟨_, hfilter hS hp,
        by simpa [hN, ht] using mem_compareTraits_iff.2 (.inr (.inl ⟨_, ht', _, hN', hv, rfl⟩))⟩
    | addedTrait hS hp hN ht ht' hS' =>
      exact .inl ⟨_, hfilter hS hp,
        by simpa [hN, ht] using mem_compareTraits_iff.2 (.inr (.inr ⟨_, ht', hS', rfl⟩))⟩
    | added hS hp hc hm => exact .inr ⟨_, hfilter hS hp, by simpa [hc] using hm⟩

/-! ## §2. Models fit for comparison -/

theorem Shape.getTrait_eq_none_iff {S : Shape} {T : ShapeId} : S.getTrait T = none ↔ S.hasTrait T = false := by
  simp [getTrait, hasTrait, TraitMap.get?, TraitMap.contains, List.find?_eq_none]

theorem Shape.mem_traits_of_getTrait {S : Shape} {T : ShapeId} {t : Trait} (h : S.getTrait T = some t) :
    t ∈ S.traits ∧ t.id = T :=
  ⟨List.mem_of_find?_eq_some h, beq_iff_eq.mp (List.find?_some (p := fun x : Trait => x.id == T) h)⟩

namespace Model

/-- What comparing relies on in a model built the usual way: the member index
(one shape per ID, each member owned by its container), and the maps of the
shapes themselves: one trait per trait ID, and no repeated key in any object of
a trait value. -/
structure Comparable (m : Model) : Prop where
  indexed : m.Indexed
  owned : m.Owned
  traits_nodup : ∀ S ∈ m.shapes, (S.traits.map (·.id)).Nodup
  values_distinct : ∀ S ∈ m.shapes, ∀ t ∈ S.traits, t.value.KeysDistinct

theorem get?_eq_none_iff {m : Model} {k : ShapeId} : m.get? k = none ↔ m.contains k = false := by
  simp [get?, contains, List.find?_eq_none]

theorem contains_iff {m : Model} {k : ShapeId} : m.contains k = true ↔ ∃ S, m.get? k = some S := by
  rw [← Bool.not_eq_false, ← get?_eq_none_iff, ← ne_eq, Option.ne_none_iff_exists']

theorem mem_shapes_of_get? {m : Model} {k : ShapeId} {S : Shape} (h : m.get? k = some S) : S ∈ m.shapes :=
  List.mem_of_find?_eq_some h

namespace Comparable

variable {m : Model} (hm : m.Comparable)
include hm

/-- A shape of the model is the one stored under its ID. -/
theorem get?_of_mem {S : Shape} (hS : S ∈ m.shapes) : m.get? S.id = some S :=
  (find?_key_eq_some_iff hm.indexed.sorted.ids_nodup).2 ⟨hS, rfl⟩

/-- A trait of a stored shape is the one its map holds under its ID. -/
theorem getTrait_of_mem {S : Shape} (hS : S ∈ m.shapes) {t : Trait} (ht : t ∈ S.traits) :
    S.getTrait t.id = some t :=
  (find?_key_eq_some_iff (hm.traits_nodup S hS)).2 ⟨ht, rfl⟩

/-- A trait value of a stored shape repeats no key. -/
theorem keysDistinct_of_getTrait {k T : ShapeId} {S : Shape} {t : Trait} (hS : m.get? k = some S)
    (ht : S.getTrait T = some t) : t.value.KeysDistinct :=
  hm.values_distinct S (mem_shapes_of_get? hS) t (Shape.mem_traits_of_getTrait ht).1

end Comparable

end Model

theorem ShapeId.isPrelude_withoutMember (X : ShapeId) : X.withoutMember.isPrelude = X.isPrelude := rfl

/-! ## §3. What is reported about one shape -/

/-- Some event of the list has the event ID and points at the shape `X`. -/
def Reports (es : List Event) (eventId : String) (X : ShapeId) : Prop :=
  ∃ e ∈ es, e.id = eventId ∧ e.shapeId = some X

/-- Some event of the list has the event ID, points at `X` and says `message`. -/
def ReportsWith (es : List Event) (eventId : String) (X : ShapeId) (message : String) : Prop :=
  ∃ e ∈ es, e.id = eventId ∧ e.shapeId = some X ∧ e.message = message

/-- `new` holds a shape under `X`, outside the prelude, that `old` lacks; a
member only when `old` holds its container. -/
def ShapeAdded (old new : Model) (X : ShapeId) : Prop :=
  X.isPrelude = false ∧ old.contains X = false ∧
    ∃ S ∈ new.shapes, S.id = X ∧ (S.isMember = true → old.contains X.withoutMember = true)

/-- Both models hold a shape under `X`, outside the prelude, of two types. -/
def TypeChanged (old new : Model) (X : ShapeId) : Prop :=
  X.isPrelude = false ∧ ∃ S N, old.get? X = some S ∧ new.get? X = some N ∧ S.type ≠ N.type

/-- Both models hold a shape under `X` of one type, and some trait of both
versions has unequal values. -/
def TraitChanged (old new : Model) (X : ShapeId) : Prop :=
  X.isPrelude = false ∧ ∃ S N, old.get? X = some S ∧ new.get? X = some N ∧ S.type = N.type ∧
    ∃ T t u, S.getTrait T = some t ∧ N.getTrait T = some u ∧ u.value.equal t.value = false

/-- Both models hold a shape under `X` of one type, and the new version has a
trait written as `T` that the old one lacks. -/
def TraitAdded (old new : Model) (X T : ShapeId) : Prop :=
  X.isPrelude = false ∧ ∃ S N, old.get? X = some S ∧ new.get? X = some N ∧ S.type = N.type ∧
    ∃ t ∈ N.traits, S.hasTrait t.id = false ∧ t.id.text = T.text

section PerShape

variable {a b : Model} {X : ShapeId}

/-- A comparison reports an added shape exactly by the rule for additions. -/
theorem reports_addedShape_iff : Reports (compareModels a b) "AddedShape" X ↔ ShapeAdded a b X := by
  constructor
  · rintro ⟨e, he, hid, hX⟩
    cases mem_compareModels_iff.1 he with
    | added hS hp hc hm =>
      obtain rfl : _ = X := Option.some.inj hX
      exact ⟨hp, hc, _, hS, rfl, hm⟩
    | _ => simp [TraitChange.eventId] at hid
  · rintro ⟨hp, hc, S, hS, rfl, hm⟩
    exact ⟨_, mem_compareModels_iff.2 (.added hS hp hc hm), rfl, rfl⟩

/-- A comparison reports a removed shape exactly when the other way round it
would report it added. -/
theorem reports_removedShape_iff : Reports (compareModels a b) "RemovedShape" X ↔ ShapeAdded b a X := by
  constructor
  · rintro ⟨e, he, hid, hX⟩
    cases mem_compareModels_iff.1 he with
    | removed hS hp hN hm =>
      obtain rfl : _ = X := Option.some.inj hX
      exact ⟨hp, Model.get?_eq_none_iff.1 hN, _, hS, rfl, hm⟩
    | _ => simp [TraitChange.eventId] at hid
  · rintro ⟨hp, hc, S, hS, rfl, hm⟩
    exact ⟨_, mem_compareModels_iff.2 (.removed hS hp (Model.get?_eq_none_iff.2 hc) hm), rfl, rfl⟩

variable (ha : a.Comparable)
include ha

theorem reports_changedShapeType_iff : Reports (compareModels a b) "ChangedShapeType" X ↔ TypeChanged a b X := by
  constructor
  · rintro ⟨e, he, hid, hX⟩
    cases mem_compareModels_iff.1 he with
    | @changedType S N hS hp hN ht =>
      obtain rfl : S.id = X := (Model.id_of_get? hN).symm.trans (Option.some.inj hX)
      exact ⟨hp, _, _, ha.get?_of_mem hS, hN, Ne.symm ht⟩
    | _ => simp [TraitChange.eventId] at hid
  · rintro ⟨hp, S, N, hS, hN, ht⟩
    obtain rfl := Model.id_of_get? hS
    exact ⟨_, mem_compareModels_iff.2 (.changedType (Model.mem_shapes_of_get? hS) hp hN (Ne.symm ht)), rfl,
      by simp [Model.id_of_get? hN]⟩

theorem reports_modifiedTrait_iff : Reports (compareModels a b) "ModifiedTrait" X ↔ TraitChanged a b X := by
  constructor
  · rintro ⟨e, he, hid, hX⟩
    cases mem_compareModels_iff.1 he with
    | @modifiedTrait S N t u hS hp hN ht ht' hu hv =>
      obtain rfl : S.id = X := (Model.id_of_get? hN).symm.trans (Option.some.inj hX)
      exact ⟨hp, _, _, ha.get?_of_mem hS, hN, ht.symm, _, _, _, ha.getTrait_of_mem hS ht', hu, hv⟩
    | _ => simp [TraitChange.eventId] at hid
  · rintro ⟨hp, S, N, hS, hN, ht, T, t, u, hT, hu, hv⟩
    obtain rfl := Model.id_of_get? hS
    obtain ⟨ht', rfl⟩ := Shape.mem_traits_of_getTrait hT
    exact ⟨_, mem_compareModels_iff.2 (.modifiedTrait (Model.mem_shapes_of_get? hS) hp hN ht.symm ht' hu hv),
      rfl, by simp [Model.id_of_get? hN]⟩

theorem reports_addedTrait_iff {T : ShapeId} :
    ReportsWith (compareModels a b) "AddedTrait" X s!"Added trait `{T.text}` to `{X.text}`" ↔
      TraitAdded a b X T := by
  constructor
  · rintro ⟨e, he, hid, hX, hmsg⟩
    cases mem_compareModels_iff.1 he with
    | @addedTrait S N t hS hp hN ht ht' hS' =>
      obtain rfl : S.id = X := (Model.id_of_get? hN).symm.trans (Option.some.inj hX)
      -- the message names the trait by its text
      rw [traitChangeEvent_message, Model.id_of_get? hN] at hmsg
      simp only [toString, String.append_left_inj, String.append_right_inj] at hmsg
      exact ⟨hp, _, _, ha.get?_of_mem hS, hN, ht.symm, _, ht', hS', hmsg⟩
    | _ => simp [TraitChange.eventId] at hid
  · rintro ⟨hp, S, N, hS, hN, ht, t, ht', hS', htext⟩
    obtain rfl := Model.id_of_get? hS
    refine ⟨_, mem_compareModels_iff.2 (.addedTrait (Model.mem_shapes_of_get? hS) hp hN ht.symm ht' hS'),
      rfl, by simp [Model.id_of_get? hN], ?_⟩
    rw [traitChangeEvent_message, Model.id_of_get? hN, htext]

/-- A comparison reports a removed trait exactly when the other way round it
would report it added. -/
theorem reports_removedTrait_iff {T : ShapeId} :
    ReportsWith (compareModels a b) "RemovedTrait" X s!"Removed trait `{T.text}` from `{X.text}`" ↔
      TraitAdded b a X T := by
  constructor
  · rintro ⟨e, he, hid, hX, hmsg⟩
    cases mem_compareModels_iff.1 he with
    | @removedTrait S N t hS hp hN ht ht' hN' =>
      obtain rfl : S.id = X := (Model.id_of_get? hN).symm.trans (Option.some.inj hX)
      rw [traitChangeEvent_message, Model.id_of_get? hN] at hmsg
      simp only [toString, String.append_left_inj, String.append_right_inj] at hmsg
      exact ⟨hp, _, _, hN, ha.get?_of_mem hS, ht, _, ht', Shape.getTrait_eq_none_iff.1 hN', hmsg⟩
    | _ => simp [TraitChange.eventId] at hid
  · rintro ⟨hp, N, S, hN, hS, ht, t, ht', hN', htext⟩
    obtain rfl := Model.id_of_get? hS
    refine ⟨_, mem_compareModels_iff.2 (.removedTrait (Model.mem_shapes_of_get? hS) hp hN ht ht'
      (Shape.getTrait_eq_none_iff.2 hN')), rfl, by simp [Model.id_of_get? hN], ?_⟩
    rw [traitChangeEvent_message, Model.id_of_get? hN, htext]

end PerShape

/-! ## §4. Nothing reported means the same shapes -/

/-- Two shapes carry the same traits: the same trait IDs, with equal values. -/
def SameTraits (S N : Shape) : Prop :=
  ∀ T, S.hasTrait T = N.hasTrait T ∧
    ∀ t u, S.getTrait T = some t → N.getTrait T = some u → t.value.equal u.value = true

/-- Two models hold the same shapes outside the prelude: the same IDs, and
under each the same type and the same traits. -/
def SameShapes (a b : Model) : Prop :=
  ∀ X, X.isPrelude = false → a.contains X = b.contains X ∧
    ∀ S N, a.get? X = some S → b.get? X = some N → S.type = N.type ∧ SameTraits S N

section Complete

variable {a b : Model}

/-- Without an addition, every shape of `new` outside the prelude is in `old`:
a member added together with its container would leave the addition of the
container, which owns it. Read the other way round, the same holds of removals. -/
theorem contains_of_none_added (hb : b.Comparable) (h : ∀ Y, ¬ ShapeAdded a b Y) {X : ShapeId}
    (hp : X.isPrelude = false) (hX : b.contains X = true) : a.contains X = true := by
  rw [← Bool.not_eq_false]
  intro haX
  obtain ⟨S, hS⟩ := Model.contains_iff.1 hX
  obtain rfl := Model.id_of_get? hS
  by_cases hm : S.isMember = true → a.contains S.id.withoutMember = true
  · exact h _ ⟨hp, haX, S, Model.mem_shapes_of_get? hS, rfl, hm⟩
  · -- a member whose container `a` lacks as well: the container is added
    obtain ⟨hmem, hC⟩ : S.isMember = true ∧ a.contains S.id.withoutMember = false := by
      simpa using hm
    obtain ⟨_, C, -, hC', hCm, -⟩ := hb.owned hS hmem
    exact h _ ⟨by rwa [ShapeId.isPrelude_withoutMember], hC, C, Model.mem_shapes_of_get? hC',
      Model.id_of_get? hC', by simp [hCm]⟩

/-- With nothing reported, a shape both models hold keeps its type and its traits. -/
theorem sameTraits_of_none_reported (ha : a.Comparable) (hb : b.Comparable) (h : ∀ e, ¬ Reported a b e)
    {S N : Shape} (hp : S.id.isPrelude = false) (hS : a.get? S.id = some S) (hN : b.get? S.id = some N) :
    S.type = N.type ∧ SameTraits S N := by
  have hSa := Model.mem_shapes_of_get? hS
  have ht : N.type = S.type := by
    by_contra ht
    exact h _ (.changedType hSa hp hN ht)
  refine ⟨ht.symm, fun T => ⟨?_, fun t u hT hU => ?_⟩⟩
  · -- a trait on one side only is reported removed or added
    cases hST : S.hasTrait T <;> cases hNT : N.hasTrait T
    · rfl
    · obtain ⟨u, hu, rfl⟩ := Shape.hasTrait_iff.1 hNT
      exact absurd (.addedTrait hSa hp hN ht hu hST) (h _)
    · obtain ⟨t, htS, rfl⟩ := Shape.hasTrait_iff.1 hST
      exact absurd (.removedTrait hSa hp hN ht htS (Shape.getTrait_eq_none_iff.2 hNT)) (h _)
    · rfl
  · -- unequal values of one trait are reported modified
    obtain ⟨htS, rfl⟩ := Shape.mem_traits_of_getTrait hT
    rw [Node.equal_comm (ha.keysDistinct_of_getTrait hS hT) (hb.keysDistinct_of_getTrait hN hU)]
    by_contra hv
    exact h _ (.modifiedTrait hSa hp hN ht htS hU (by simpa using hv))

/-- **Completeness.** Comparing two models fit for comparison reports nothing
exactly when they hold the same shapes outside the prelude, with the same
types and the same traits. -/
theorem compareModels_eq_nil_iff (ha : a.Comparable) (hb : b.Comparable) :
    compareModels a b = [] ↔ SameShapes a b := by
  constructor
  · intro hnil
    have h : ∀ e, ¬ Reported a b e := fun e he => by simpa [hnil] using mem_compareModels_iff.2 he
    -- nothing is added either way round
    have hadded : ∀ Y, ¬ ShapeAdded a b Y := fun Y hY => by
      simpa [Reports, hnil] using reports_addedShape_iff.2 hY
    have hremoved : ∀ Y, ¬ ShapeAdded b a Y := fun Y hY => by
      simpa [Reports, hnil] using reports_removedShape_iff.2 hY
    intro X hp
    refine ⟨Bool.eq_iff_iff.2 ⟨contains_of_none_added ha hremoved hp, contains_of_none_added hb hadded hp⟩,
      fun S N hS hN => ?_⟩
    obtain rfl := Model.id_of_get? hS
    exact sameTraits_of_none_reported ha hb h hp hS hN
  · intro hsame
    rw [List.eq_nil_iff_forall_not_mem]
    intro e he
    -- every rule contradicts one part of the sameness
    cases mem_compareModels_iff.1 he with
    | @removed S hS hp hN _ =>
      have := (hsame S.id hp).1
      rw [(Model.contains_iff.2 ⟨S, ha.get?_of_mem hS⟩), Model.get?_eq_none_iff.1 hN] at this
      cases this
    | @changedType S N hS hp hN ht => exact ht ((hsame S.id hp).2 S N (ha.get?_of_mem hS) hN).1.symm
    | @removedTrait S N t hS hp hN _ htS hN' =>
      have := (((hsame S.id hp).2 S N (ha.get?_of_mem hS) hN).2 t.id).1
      rw [Shape.getTrait_eq_none_iff.1 hN', ← Shape.getTrait_eq_none_iff, ha.getTrait_of_mem hS htS] at this
      cases this
    | @modifiedTrait S N t u hS hp hN _ htS hU hv =>
      have := (((hsame S.id hp).2 S N (ha.get?_of_mem hS) hN).2 t.id).2 t u (ha.getTrait_of_mem hS htS) hU
      rw [Node.equal_comm (ha.values_distinct S hS t htS) (hb.keysDistinct_of_getTrait hN hU)] at this
      rw [this] at hv
      cases hv
    | @addedTrait S N t hS hp hN _ htN hS' =>
      have := (((hsame S.id hp).2 S N (ha.get?_of_mem hS) hN).2 t.id).1
      rw [hS', Shape.hasTrait_iff.2 ⟨t, htN, rfl⟩] at this
      cases this
    | @added S hS hp hc _ =>
      have := (hsame S.id hp).1
      rw [hc, Model.contains_iff.2 ⟨S, hb.get?_of_mem hS⟩] at this
      cases this

end Complete

/-! ## §5. Comparing the other way round -/

section Swap

variable {a b : Model} {X : ShapeId}

theorem TypeChanged.swap (h : TypeChanged a b X) : TypeChanged b a X := by
  obtain ⟨hp, S, N, hS, hN, ht⟩ := h
  exact ⟨hp, N, S, hN, hS, Ne.symm ht⟩

/-- A trait changed one way round is changed the other way: equality of the
values is symmetric, as neither repeats a key. -/
theorem TraitChanged.swap (ha : a.Comparable) (hb : b.Comparable) (h : TraitChanged a b X) :
    TraitChanged b a X := by
  obtain ⟨hp, S, N, hS, hN, ht, T, t, u, hT, hU, hv⟩ := h
  refine ⟨hp, N, S, hN, hS, ht.symm, T, u, t, hU, hT, ?_⟩
  rwa [Node.equal_comm (ha.keysDistinct_of_getTrait hS hT) (hb.keysDistinct_of_getTrait hN hU)]

/-- **Completeness and duality of comparison.** For two models fit for
comparison, comparing reports nothing exactly when they hold the same shapes
outside the prelude with the same types and traits; and comparing the other
way round reports each added shape as removed, each added trait as removed,
and the same trait changes and type changes. -/
theorem compareModels_complete_and_dual (ha : a.Comparable) (hb : b.Comparable) :
    (compareModels a b = [] ↔ SameShapes a b) ∧
    ∀ X : ShapeId,
      (Reports (compareModels a b) "AddedShape" X ↔ Reports (compareModels b a) "RemovedShape" X) ∧
      (∀ T : ShapeId,
        ReportsWith (compareModels a b) "AddedTrait" X s!"Added trait `{T.text}` to `{X.text}`" ↔
          ReportsWith (compareModels b a) "RemovedTrait" X s!"Removed trait `{T.text}` from `{X.text}`") ∧
      (Reports (compareModels a b) "ModifiedTrait" X ↔ Reports (compareModels b a) "ModifiedTrait" X) ∧
      (Reports (compareModels a b) "ChangedShapeType" X ↔
        Reports (compareModels b a) "ChangedShapeType" X) := by
  refine ⟨compareModels_eq_nil_iff ha hb, fun X => ⟨?_, fun T => ?_, ?_, ?_⟩⟩
  · rw [reports_addedShape_iff, reports_removedShape_iff]
  · rw [reports_addedTrait_iff ha, reports_removedTrait_iff hb]
  · rw [reports_modifiedTrait_iff ha, reports_modifiedTrait_iff hb]
    exact ⟨TraitChanged.swap ha hb, TraitChanged.swap hb ha⟩
  · rw [reports_changedShapeType_iff ha, reports_changedShapeType_iff hb]
    exact ⟨TypeChanged.swap, TypeChanged.swap⟩

end Swap

/-- `ns#Foo` with member `a` and the trait `ns#c` set to `{}`. -/
def fooWithTag : Shape := { ModelOp.fooWith ["a"] with traits := [⟨⟨"ns", "c", none⟩, .obj [], .none⟩] }

/-- `fooWithTag` with its member. -/
def taggedFoo : Model := ({} : Model).insertShapes [fooWithTag]

/-- `ns#Foo` with members `a` and `b`, and no trait. -/
def grownFoo : Model := ({} : Model).insertShapes [ModelOp.fooWith ["a", "b"]]

theorem taggedFoo_comparable : taggedFoo.Comparable := by
  -- the trait leaves the shape's well-formedness, which reads its ID and body only
  have hwf : fooWithTag.WellFormed :=
    have h := ModelOp.fooWith_wellFormed (show ["a"].Nodup by decide)
    ⟨h.id_isMember, h.simple, h.member_id, h.names_nodup, h.fixed⟩
  obtain ⟨hi, ho⟩ : taggedFoo.Indexed ∧ taggedFoo.Owned :=
    Model.insertShapes_consistent (by simpa using ⟨hwf, rfl⟩) Model.indexed_empty Model.owned_empty
  refine ⟨hi, ho, by decide +kernel, ?_⟩
  rw [show taggedFoo.shapes = fooWithTag :: fooWithTag.memberShapes from rfl]
  simp [fooWithTag, ModelOp.fooWith, Shape.memberShapes, Body.members]
  exact .obj (by simp) (by simp)

theorem grownFoo_comparable : grownFoo.Comparable := by
  obtain ⟨hi, ho⟩ : grownFoo.Indexed ∧ grownFoo.Owned := Model.insertShapes_consistent
    (by simpa using ⟨ModelOp.fooWith_wellFormed (by decide), rfl⟩) Model.indexed_empty Model.owned_empty
  refine ⟨hi, ho, by decide +kernel, ?_⟩
  rw [show grownFoo.shapes = ModelOp.fooWith ["a", "b"] :: (ModelOp.fooWith ["a", "b"]).memberShapes from rfl]
  simp [ModelOp.fooWith, Shape.memberShapes, Body.members]

/-- A member added to a structure that also loses a trait: both models are fit
for comparison, and the two directions of comparison answer each other. -/
theorem compareModels_complete_and_dual_member_added :
    taggedFoo.Comparable ∧ grownFoo.Comparable ∧
    (compareModels taggedFoo grownFoo = [] ↔ SameShapes taggedFoo grownFoo) ∧
    ∀ X : ShapeId,
      (Reports (compareModels taggedFoo grownFoo) "AddedShape" X ↔
        Reports (compareModels grownFoo taggedFoo) "RemovedShape" X) ∧
      (∀ T : ShapeId,
        ReportsWith (compareModels taggedFoo grownFoo) "AddedTrait" X
            s!"Added trait `{T.text}` to `{X.text}`" ↔
          ReportsWith (compareModels grownFoo taggedFoo) "RemovedTrait" X
            s!"Removed trait `{T.text}` from `{X.text}`") ∧
      (Reports (compareModels taggedFoo grownFoo) "ModifiedTrait" X ↔
        Reports (compareModels grownFoo taggedFoo) "ModifiedTrait" X) ∧
      (Reports (compareModels taggedFoo grownFoo) "ChangedShapeType" X ↔
        Reports (compareModels grownFoo taggedFoo) "ChangedShapeType" X) :=
  ⟨taggedFoo_comparable, grownFoo_comparable,
    compareModels_complete_and_dual taggedFoo_comparable grownFoo_comparable⟩

end ShapeKit
