import ShapeKit.Proofs.MergeRuns

/-!
# Applying merged trait values

After collecting, `finalizeTraits` creates each merged value with the trait
factory and applies it to every declaration of its target. On a loader whose
declarations carry no traits yet (`Loader.Tidy`, which JSON AST loads keep),
this sets the traits of every declared ID to the values created from its row
of the table, and nothing else:

  * applying one value to a target adds it to the traits of that ID in every
    declaration, and changes nothing else (`applyTrait_setTraits`);
  * applying the whole table gives every ID the traits created from its row
    (`foldl_applyRow_setTraits`), with one event per value the factory
    refuses and no other.
-/

namespace ShapeKit

open Json

/-! ## §1. Tidy loaders -/

/-- A declaration as the JSON AST loader makes it under the ID `C`: the
builder has the ID `C`, a shape's and not a member's, and carries no trait and
no built member; its members have distinct IDs, each a member of `C`, and
carry no trait and no built member. -/
structure PendingShape.Tidy (p : PendingShape) (C : ShapeId) : Prop where
  id : p.builder.id = some C
  not_member : C.isMember = false
  traitless : p.builder.traits = []
  unbuilt : p.builder.members = []
  member_ids : ∀ m ∈ p.members, ∃ x, m.builder.id = some x ∧ x.isMember = true ∧ x.withoutMember = C
  member_ids_nodup : (p.members.map (·.builder.id)).Nodup
  member_traitless : ∀ m ∈ p.members, m.builder.traits = []
  member_unbuilt : ∀ m ∈ p.members, m.builder.members = []

/-- Declarations kept under their IDs in ID order, each tidy. -/
structure TidyDecls (shapes : List (ShapeId × List PendingShape)) : Prop where
  sorted : Keyed.Sorted ShapeId.compare Prod.fst shapes
  entries : ∀ e ∈ shapes, ∀ p ∈ e.2, p.Tidy e.1

/-- A loader as JSON AST loads leave it: tidy declarations, none under the ID
of a prelude shape the prelude already gives, and metadata in key order. -/
structure Loader.Tidy (l : Loader) : Prop where
  decls : TidyDecls l.shapes
  not_prelude : ∀ e ∈ l.shapes, ¬(l.includePrelude = true ∧ isPreludeShape e.1 = true)
  metadata_sorted : Keyed.Sorted compare Prod.fst l.metadata

/-- No ID of a tidy declaration under `C'` is an ID whose container is not `C'`. -/
theorem PendingShape.Tidy.ne_of_container_ne {p : PendingShape} {C' : ShapeId} (hp : p.Tidy C')
    {target : ShapeId} (hC : C' ≠ target.withoutMember) :
    p.builder.id ≠ some target ∧ ∀ m ∈ p.members, m.builder.id ≠ some target := by
  refine ⟨fun h => hC ?_, fun m hm h => ?_⟩
  · rw [hp.id] at h
    cases h
    exact (ShapeId.withoutMember_eq_self hp.not_member).symm
  · obtain ⟨x, hx, -, hxC⟩ := hp.member_ids m hm
    rw [hx] at h
    cases h
    exact hC hxC.symm

/-! ## §2. Declarations with their traits set -/

/-- The builder with the traits `f` gives its ID. -/
def Builder.traitsBy (f : ShapeId → TraitMap) (b : Builder) : Builder :=
  match b.id with
  | some id => { b with traits := f id }
  | none => b

/-- A declaration with the traits `f` gives each of its IDs. -/
def PendingShape.setTraits (f : ShapeId → TraitMap) (p : PendingShape) : PendingShape :=
  { p with
    builder := p.builder.traitsBy f
    members := p.members.map fun m => { m with builder := m.builder.traitsBy f } }

/-- Declarations with the traits `f` gives their IDs. -/
def setTraitsAll (f : ShapeId → TraitMap) (shapes : List (ShapeId × List PendingShape)) :
    List (ShapeId × List PendingShape) :=
  shapes.map fun e => (e.1, e.2.map (PendingShape.setTraits f))

@[simp] theorem Builder.traitsBy_id (f : ShapeId → TraitMap) (b : Builder) : (b.traitsBy f).id = b.id := by
  unfold Builder.traitsBy
  split <;> rfl

theorem Builder.traitsBy_of_id {b : Builder} {x : ShapeId} (h : b.id = some x) (f : ShapeId → TraitMap) :
    b.traitsBy f = { b with traits := f x } := by
  simp [Builder.traitsBy, h]

theorem Builder.traitsBy_congr (b : Builder) {f f' : ShapeId → TraitMap}
    (h : ∀ x, b.id = some x → f x = f' x) : b.traitsBy f = b.traitsBy f' := by
  unfold Builder.traitsBy
  split
  · next x hx => rw [h x hx]
  · rfl

/-- Two trait assignments that agree on a declaration's IDs set the same traits. -/
theorem PendingShape.setTraits_congr (p : PendingShape) {f f' : ShapeId → TraitMap}
    (hb : ∀ x, p.builder.id = some x → f x = f' x)
    (hm : ∀ m ∈ p.members, ∀ x, m.builder.id = some x → f x = f' x) :
    p.setTraits f = p.setTraits f' := by
  unfold PendingShape.setTraits
  rw [Builder.traitsBy_congr p.builder hb]
  congr 1
  exact List.map_congr_left fun m hm' => by rw [Builder.traitsBy_congr m.builder (hm m hm')]

theorem Builder.traitsBy_of_traitless {b : Builder} {x : ShapeId} (hx : b.id = some x)
    (ht : b.traits = []) : b.traitsBy (fun _ => []) = b := by
  rw [Builder.traitsBy_of_id hx, ← ht]

/-- Giving no traits to a tidy declaration leaves it as it is. -/
theorem PendingShape.Tidy.setTraits_empty {p : PendingShape} {C : ShapeId} (hp : p.Tidy C) :
    p.setTraits (fun _ => []) = p := by
  unfold PendingShape.setTraits
  rw [Builder.traitsBy_of_traitless hp.id hp.traitless]
  have hmembers : p.members.map (fun m => { m with builder := m.builder.traitsBy fun _ => [] }) = p.members := by
    refine (List.map_congr_left fun m hm => ?_).trans (List.map_id _)
    obtain ⟨x, hx, -⟩ := hp.member_ids m hm
    rw [Builder.traitsBy_of_traitless hx (hp.member_traitless m hm)]
    rfl
  rw [hmembers]

/-- Updating the traits of an ID outside a declaration's container changes nothing. -/
theorem PendingShape.Tidy.setTraits_update_of_ne {p : PendingShape} {C' : ShapeId} (hp : p.Tidy C')
    {target : ShapeId} (hC : C' ≠ target.withoutMember) (f : ShapeId → TraitMap) (m : TraitMap) :
    p.setTraits (Function.update f target m) = p.setTraits f := by
  obtain ⟨hb, hms⟩ := hp.ne_of_container_ne hC
  refine p.setTraits_congr (fun x hx => ?_) (fun mem hmem x hx => ?_)
  · exact Function.update_of_ne (fun (h : x = target) => hb (h ▸ hx)) _ _
  · exact Function.update_of_ne (fun (h : x = target) => hms mem hmem (h ▸ hx)) _ _

theorem TidyDecls.setTraitsAll_update_of_lookup_none {base : List (ShapeId × List PendingShape)}
    (hbase : TidyDecls base) {target : ShapeId} (hnone : base.lookup target.withoutMember = none)
    (f : ShapeId → TraitMap) (m : TraitMap) :
    setTraitsAll (Function.update f target m) base = setTraitsAll f base := by
  refine List.map_congr_left fun e he => ?_
  have hC : e.1 ≠ target.withoutMember := fun h =>
    (Keyed.lookup_eq_none_iff.mp hnone) e he h
  congr 1
  exact List.map_congr_left fun p hp => (hbase.entries e he p hp).setTraits_update_of_ne hC f m

theorem lookup_map_snd {β γ : Type} (l : List (ShapeId × β)) (g : β → γ) (k : ShapeId) :
    (l.map fun e => (e.1, g e.2)).lookup k = (l.lookup k).map g := by
  induction l with
  | nil => rfl
  | cons e rest ih =>
    obtain ⟨k', v⟩ := e
    by_cases h : k = k'
    · subst h
      simp
    · simp [List.lookup, beq_false_of_ne h, ih]

theorem mem_of_lookup_eq_some {β : Type} {l : List (ShapeId × β)} {k : ShapeId} {v : β}
    (h : l.lookup k = some v) : (k, v) ∈ l := by
  obtain ⟨l₁, l₂, rfl, -⟩ := List.lookup_eq_some_iff.mp h
  simp

theorem TidyDecls.sorted_setTraitsAll {base : List (ShapeId × List PendingShape)} (hbase : TidyDecls base)
    (f : ShapeId → TraitMap) : Keyed.Sorted ShapeId.compare Prod.fst (setTraitsAll f base) := by
  unfold Keyed.Sorted setTraitsAll
  exact List.pairwise_map.mpr hbase.sorted

/-! ## §3. Applying one value -/

/-- Once the member is replaced, the rest of the members are kept. -/
theorem foldl_replaceFirst_done (X : ShapeId) (b : Builder) (xs acc : List PendingMember) :
    (xs.foldl (fun (acc : List PendingMember × Bool) x =>
        if !acc.2 && x.builder.id == some X then (acc.1 ++ [{ x with builder := b }], true)
        else (acc.1 ++ [x], acc.2)) (acc, true)).1 = acc ++ xs := by
  induction xs generalizing acc with
  | nil => simp
  | cons x rest ih =>
    simp only [List.foldl_cons, Bool.not_true, Bool.false_and, Bool.false_eq_true, if_false]
    rw [ih]
    simp

/-- Replacing the first member with an ID replaces the only one, when the
members' IDs are distinct. -/
theorem foldl_replaceFirst (X : ShapeId) (b : Builder) {xs : List PendingMember}
    (hnd : (xs.map (·.builder.id)).Nodup) (acc : List PendingMember) :
    (xs.foldl (fun (acc : List PendingMember × Bool) x =>
        if !acc.2 && x.builder.id == some X then (acc.1 ++ [{ x with builder := b }], true)
        else (acc.1 ++ [x], acc.2)) (acc, false)).1 =
      acc ++ xs.map fun x => if x.builder.id = some X then { x with builder := b } else x := by
  induction xs generalizing acc with
  | nil => simp
  | cons x rest ih =>
    obtain ⟨hx, hrest⟩ := List.nodup_cons.mp hnd
    by_cases hxX : x.builder.id = some X
    · -- no later member has the ID
      have hkeep : rest.map (fun y => if y.builder.id = some X then { y with builder := b } else y) = rest := by
        refine List.map_congr_left (fun y hy => ?_) |>.trans (List.map_id rest)
        have hne : y.builder.id ≠ some X := fun h => hx (by
          show x.builder.id ∈ _
          rw [hxX, ← h]
          exact List.mem_map_of_mem hy)
        simp [hne]
      simp only [List.foldl_cons, Bool.not_false, Bool.true_and, hxX, beq_self_eq_true, if_true]
      rw [foldl_replaceFirst_done]
      simp [hxX, hkeep]
    · have hb : (x.builder.id == some X) = false := by simpa using hxX
      simp only [List.foldl_cons, Bool.not_false, Bool.true_and, hb, Bool.false_eq_true, if_false]
      rw [ih hrest]
      simp [hxX]

/-- What applying a value does to one declaration of its target's container:
the declaration with the value merged into the builder of the target, and the
place of a value it conflicts with. -/
def applyStep (target : ShapeId) (t : Trait) (entry : PendingShape) : PendingShape × Option SourceLocation :=
  if target.isMember then
    match entry.members.find? (·.builder.id == some target) with
    | none => (entry, none)
    | some m =>
      let (b, conflict) := Loader.mergeInto m.builder t
      let members := (entry.members.foldl (fun (acc : List PendingMember × Bool) x =>
        if !acc.2 && x.builder.id == some target then (acc.1 ++ [{ x with builder := b }], true)
        else (acc.1 ++ [x], acc.2)) ([], false)).1
      ({ entry with members }, conflict)
  else
    let (b, conflict) := Loader.mergeInto entry.builder t
    ({ entry with builder := b }, conflict)

namespace Loader

theorem applyTrait_of_lookup_none {l : Loader} {target : ShapeId} (t : Trait)
    (h : l.shapes.lookup target.withoutMember = none) : l.applyTrait target t = l := by
  unfold applyTrait
  simp only [h]

/-- Applying a value that conflicts with no declaration puts the declarations
`applyStep` gives under the container. -/
theorem applyTrait_of_no_conflict {l : Loader} {target : ShapeId} {t : Trait} {entries : List PendingShape}
    (h : l.shapes.lookup target.withoutMember = some entries)
    (hconf : (entries.map (applyStep target t)).head?.bind (·.2) = none) :
    l.applyTrait target t =
      { l with shapes := putById l.shapes target.withoutMember ((entries.map (applyStep target t)).map (·.1)) } := by
  unfold applyTrait
  simp only [h]
  split
  · next previous hprev =>
    change (entries.map (applyStep target t)).head?.bind (·.2) = some previous at hprev
    rw [hconf] at hprev
    cases hprev
  · rfl

end Loader

/-- Applying a value to a declaration whose target does not carry it yet adds
it to the target's traits. -/
theorem PendingShape.Tidy.applyStep_setTraits {p : PendingShape} {target : ShapeId}
    (hp : p.Tidy target.withoutMember) (f : ShapeId → TraitMap) {t : Trait}
    (ht : (f target).get? t.id = none) :
    applyStep target t (p.setTraits f) = (p.setTraits (Function.update f target ((f target).insert t)), none) := by
  unfold applyStep
  by_cases hm : target.isMember
  · simp only [hm, if_true]
    -- the container's own builder is not the target's
    have hself : p.builder.id ≠ some target := fun h => by
      have hC : target.withoutMember = target := Option.some.inj (hp.id.symm.trans h)
      have := hp.not_member
      rw [hC, hm] at this
      cases this
    cases hfind : (p.setTraits f).members.find? (·.builder.id == some target) with
    | none =>
      -- no member has the target's ID: nothing changes
      have hnone : ∀ m ∈ p.members, m.builder.id ≠ some target := fun m hm' h => by
        have := List.find?_eq_none.mp hfind { m with builder := m.builder.traitsBy f }
          (List.mem_map_of_mem hm')
        simp [h] at this
      refine Prod.ext ?_ rfl
      exact (p.setTraits_congr (fun x hx => Function.update_of_ne (fun (h : x = target) => hself (h ▸ hx)) _ _)
        (fun m hm' x hx => Function.update_of_ne (fun (h : x = target) => hnone m hm' (h ▸ hx)) _ _)).symm
    | some m' =>
      have hnd : ((p.setTraits f).members.map (·.builder.id)).Nodup := by
        simpa [PendingShape.setTraits, Function.comp_def] using hp.member_ids_nodup
      obtain ⟨hm'mem, hm'id⟩ := (Model.find?_key_eq_some_iff hnd).mp hfind
      obtain ⟨m, hmem, rfl⟩ := List.mem_map.mp hm'mem
      have hmid : m.builder.id = some target := by simpa using hm'id
      have hmerge : Loader.mergeInto (m.builder.traitsBy f) t = ((m.builder.traitsBy f).addTrait t, none) :=
        Loader.mergeInto_of_get?_eq_none (by rw [Builder.traitsBy_of_id hmid]; exact ht)
      simp only [hmerge, foldl_replaceFirst _ _ hnd, List.nil_append]
      refine Prod.ext ?_ rfl
      simp only [PendingShape.setTraits, List.map_map]
      rw [@Builder.traitsBy_congr p.builder f (Function.update f target ((f target).insert t))
        (fun x hx => (Function.update_of_ne (fun (h : x = target) => hself (h ▸ hx)) _ _).symm)]
      congr 1
      refine List.map_congr_left fun y hy => ?_
      by_cases hyid : y.builder.id = some target
      · -- one member per ID: `y` is `m`
        have hym : y = m := List.inj_on_of_nodup_map hp.member_ids_nodup hy hmem (hyid.trans hmid.symm)
        subst hym
        simp [hyid, Builder.traitsBy_of_id hyid, Builder.addTrait]
      · simp only [Function.comp_apply, Builder.traitsBy_id, hyid, if_false]
        rw [@Builder.traitsBy_congr y.builder f (Function.update f target ((f target).insert t))
          (fun x hx => (Function.update_of_ne (fun (h : x = target) => hyid (h ▸ hx)) _ _).symm)]
  · simp only [hm, Bool.false_eq_true, if_false]
    have hC : target.withoutMember = target := ShapeId.withoutMember_eq_self (by simpa using hm)
    have hid : p.builder.id = some target := hC ▸ hp.id
    have hmerge : Loader.mergeInto (p.builder.traitsBy f) t = ((p.builder.traitsBy f).addTrait t, none) :=
      Loader.mergeInto_of_get?_eq_none (by rw [Builder.traitsBy_of_id hid]; exact ht)
    simp only [PendingShape.setTraits] at hmerge ⊢
    rw [hmerge]
    refine Prod.ext ?_ rfl
    -- the members are members, so none has the target's ID
    have hmembers : ∀ m ∈ p.members, ∀ x, m.builder.id = some x → x ≠ target := fun m hm' x hx hxt => by
      obtain ⟨y, hy, hymem, -⟩ := hp.member_ids m hm'
      rw [hx] at hy
      cases hy
      rw [hxt] at hymem
      exact absurd hymem (by simpa using hm)
    simp only [Builder.traitsBy_of_id hid, Builder.addTrait, Function.update_self]
    congr 1
    refine List.map_congr_left fun m hm' => ?_
    rw [@Builder.traitsBy_congr m.builder f (Function.update f target ((f target).insert t))
      (fun x hx => (Function.update_of_ne (hmembers m hm' x hx) _ _).symm)]

/-- Applying a value to a target whose traits do not carry it yet adds it to
the target's traits in every declaration, and changes nothing else. -/
theorem Loader.applyTrait_setTraits {l : Loader} {base : List (ShapeId × List PendingShape)}
    (hbase : TidyDecls base) {f : ShapeId → TraitMap} (hl : l.shapes = setTraitsAll f base)
    {target : ShapeId} {t : Trait} (ht : (f target).get? t.id = none) :
    l.applyTrait target t =
      { l with shapes := setTraitsAll (Function.update f target ((f target).insert t)) base } := by
  have hlookup : l.shapes.lookup target.withoutMember =
      (base.lookup target.withoutMember).map (List.map (PendingShape.setTraits f)) := by
    rw [hl, setTraitsAll, lookup_map_snd]
  cases hlook : base.lookup target.withoutMember with
  | none =>
    rw [hlook] at hlookup
    rw [applyTrait_of_lookup_none t hlookup, hbase.setTraitsAll_update_of_lookup_none hlook, ← hl]
  | some es =>
    rw [hlook] at hlookup
    have hmem := mem_of_lookup_eq_some hlook
    have hsteps : (es.map (PendingShape.setTraits f)).map (applyStep target t) =
        es.map fun p => (p.setTraits (Function.update f target ((f target).insert t)), none) := by
      rw [List.map_map]
      exact List.map_congr_left fun p hp => (hbase.entries _ hmem p hp).applyStep_setTraits f ht
    have hconf : ((es.map (PendingShape.setTraits f)).map (applyStep target t)).head?.bind (·.2) = none := by
      rw [hsteps]
      cases es <;> rfl
    have hy : (target.withoutMember, es.map (PendingShape.setTraits f)) ∈ setTraitsAll f base := by
      unfold setTraitsAll
      exact List.mem_map_of_mem hmem
    rw [applyTrait_of_no_conflict hlookup hconf, hsteps, hl, putById_eq,
      (hbase.sorted_setTraitsAll f).put_eq_map hy (x := (target.withoutMember, _))
        (show Prod.fst (target.withoutMember, es.map (PendingShape.setTraits f)) = target.withoutMember from rfl)]
    congr 1
    simp only [setTraitsAll, List.map_map]
    refine List.map_congr_left fun e he => ?_
    by_cases hC : e.1 = target.withoutMember
    · -- the one entry under the container is the one the lookup found
      have hes : e.2 = es := by
        have := hbase.sorted.lookup_of_mem he
        rw [hC, hlook] at this
        exact (Option.some.inj this).symm
      simp [hC, hes]
    · simp only [Function.comp_apply, hC, if_false]
      congr 1
      exact List.map_congr_left fun p hp => ((hbase.entries e he p hp).setTraits_update_of_ne hC f _).symm

/-! ## §4. Applying the table -/

theorem TraitMap.get?_insert (m : TraitMap) (t : Trait) (X : ShapeId) :
    (m.insert t).get? X = if t.id = X then some t else m.get? X := by
  rw [TraitMap.insert_eq, TraitMap.get?, Keyed.find?_put]
  rfl

namespace TraitFactory

/-- One more value of a row: the trait the factory creates from it, added to
the traits. -/
def addCreated (factory : TraitFactory) (m : TraitMap) (x : ShapeId × Node × SourceLocation) : TraitMap :=
  match factory.create x.1 x.2.1 x.2.2 with
  | .ok t => m.insert t
  | .error _ => m

/-- The event of a value of a row the factory refuses. -/
def refusal (factory : TraitFactory) (target : ShapeId) : ShapeId × Node × SourceLocation → List Event
  | (traitId, value, source) =>
    match factory.create traitId value source with
    | .ok _ => []
    | .error e =>
      [{ modelEvent s!"Error creating trait `{traitId.name}`: {e.message}" source with
        shapeId := some target }]

/-- The traits a table gives a target: those the factory creates from its row. -/
def createdFrom (factory : TraitFactory) (table : Loader.TraitTable) (target : ShapeId) : TraitMap :=
  ((table.lookup target).getD []).foldl factory.addCreated []

/-- The trait a row of distinct trait IDs leaves under an ID: the one created
from the row's value for it, else the one there before. -/
theorem get?_foldl_addCreated (factory : TraitFactory) {row : List (ShapeId × Node × SourceLocation)}
    (hrow : (row.map Prod.fst).Nodup) (m : TraitMap) (X : ShapeId) :
    (row.foldl factory.addCreated m).get? X =
      ((row.lookup X).bind fun p => (factory.create X p.1 p.2).toOption).or (m.get? X) := by
  induction row generalizing m with
  | nil => rfl
  | cons x rest ih =>
    obtain ⟨Y, v, s⟩ := x
    obtain ⟨hY, hrest⟩ := List.nodup_cons.mp hrow
    rw [List.foldl_cons, ih hrest]
    by_cases hXY : X = Y
    · -- the row's one value for `X`: the later ones have other IDs
      subst hXY
      have hnone : rest.lookup X = none :=
        Keyed.lookup_eq_none_iff.mpr fun e he h => hY (List.mem_map.mpr ⟨e, he, h⟩)
      cases hc : factory.create X v s with
      | ok t =>
        obtain ⟨-, rfl⟩ := create_eq_ok_iff.mp hc
        simp [hnone, addCreated, hc, TraitMap.get?_insert, Except.toOption]
      | error e => simp [hnone, addCreated, hc, Except.toOption]
    · have hlookup : ((Y, v, s) :: rest).lookup X = rest.lookup X := by
        simp [List.lookup, beq_false_of_ne hXY]
      have hkeep : (factory.addCreated m (Y, v, s)).get? X = m.get? X := by
        unfold addCreated
        split
        · next t hc =>
          obtain ⟨-, rfl⟩ := create_eq_ok_iff.mp hc
          rw [TraitMap.get?_insert, if_neg (Ne.symm hXY)]
        · rfl
      rw [hlookup, hkeep]

end TraitFactory

namespace Loader

theorem applyRow_cons_ok {l : Loader} {target Y : ShapeId} {v : Node} {s : SourceLocation} {t : Trait}
    (rest : List (ShapeId × Node × SourceLocation)) (h : l.factory.create Y v s = .ok t) :
    l.applyRow target ((Y, v, s) :: rest) = (l.applyTrait target t).applyRow target rest := by
  simp only [applyRow, List.foldl_cons, h]

theorem applyRow_cons_error {l : Loader} {target Y : ShapeId} {v : Node} {s : SourceLocation} {e : TraitError}
    (rest : List (ShapeId × Node × SourceLocation)) (h : l.factory.create Y v s = .error e) :
    l.applyRow target ((Y, v, s) :: rest) =
      { l with events := l.events ++ l.factory.refusal target (Y, v, s) }.applyRow target rest := by
  simp only [applyRow, List.foldl_cons, h, TraitFactory.refusal]
  rfl

/-- Applying the row of a target none of whose trait IDs it carries yet adds
the traits created from the row to its traits, and the event of each value
the factory refuses. -/
theorem applyRow_setTraits {l : Loader} {base : List (ShapeId × List PendingShape)}
    (hbase : TidyDecls base) {f : ShapeId → TraitMap} (hl : l.shapes = setTraitsAll f base)
    (target : ShapeId) {row : List (ShapeId × Node × SourceLocation)} (hrow : (row.map Prod.fst).Nodup)
    (hfresh : ∀ e ∈ row, (f target).get? e.1 = none) :
    (l.applyRow target row).shapes =
        setTraitsAll (Function.update f target (row.foldl l.factory.addCreated (f target))) base ∧
      (l.applyRow target row).events = l.events ++ row.flatMap (l.factory.refusal target) ∧
      (l.applyRow target row).factory = l.factory := by
  induction row generalizing l f with
  | nil => simp [applyRow, hl]
  | cons x rest ih =>
    obtain ⟨Y, v, s⟩ := x
    obtain ⟨hY, hrest⟩ := List.nodup_cons.mp hrow
    cases hc : l.factory.create Y v s with
    | ok t =>
      obtain ⟨-, rfl⟩ := TraitFactory.create_eq_ok_iff.mp hc
      have hstep := applyTrait_setTraits hbase hl (t := ⟨Y, v, s⟩) (hfresh _ List.mem_cons_self)
      -- the later values have other IDs, so they are still fresh
      have hfresh' : ∀ e ∈ rest,
          (Function.update f target ((f target).insert ⟨Y, v, s⟩) target).get? e.1 = none := by
        intro e he
        rw [Function.update_self, TraitMap.get?_insert,
          if_neg (fun (h : Y = e.1) => hY (List.mem_map.mpr ⟨e, he, h.symm⟩))]
        exact hfresh e (List.mem_cons_of_mem _ he)
      obtain ⟨hshapes, hevents, hfactory⟩ := ih (l := l.applyTrait target ⟨Y, v, s⟩)
        (by rw [hstep]) hrest hfresh'
      rw [applyRow_cons_ok rest hc]
      rw [hstep] at hshapes hevents hfactory ⊢
      refine ⟨?_, ?_, hfactory⟩
      · rw [hshapes, Function.update_idem, Function.update_self]
        simp [TraitFactory.addCreated, hc]
      · rw [hevents]
        simp [TraitFactory.refusal, hc]
    | error e =>
      obtain ⟨hshapes, hevents, hfactory⟩ := ih (l := { l with events := l.events ++ l.factory.refusal target (Y, v, s) })
        hl hrest (fun e he => hfresh e (List.mem_cons_of_mem _ he))
      rw [applyRow_cons_error rest hc]
      refine ⟨?_, ?_, hfactory⟩
      · rw [hshapes]
        simp [TraitFactory.addCreated, hc]
      · rw [hevents]
        simp

/-- Applying a table whose targets carry none of its traits yet gives each
target of the table the traits created from its row, and adds the events of
the values the factory refuses, row by row. -/
theorem foldl_applyRow_setTraits {base : List (ShapeId × List PendingShape)} (hbase : TidyDecls base)
    {table : TraitTable} (hsorted : Keyed.Sorted ShapeId.compare Prod.fst table)
    (hrows : ∀ e ∈ table, Keyed.Sorted ShapeId.compare Prod.fst e.2)
    {l : Loader} {f : ShapeId → TraitMap} (hl : l.shapes = setTraitsAll f base)
    (hempty : ∀ e ∈ table, f e.1 = []) :
    (table.foldl (fun l (target, row) => l.applyRow target row) l).shapes =
        setTraitsAll (fun T => ((table.lookup T).map (·.foldl l.factory.addCreated [])).getD (f T)) base ∧
      (table.foldl (fun l (target, row) => l.applyRow target row) l).events =
        l.events ++ table.flatMap (fun e => e.2.flatMap (l.factory.refusal e.1)) ∧
      (table.foldl (fun l (target, row) => l.applyRow target row) l).factory = l.factory := by
  induction table generalizing l f with
  | nil => simp [hl]
  | cons e rest ih =>
    obtain ⟨T, row⟩ := e
    obtain ⟨hlt, hrest⟩ := List.pairwise_cons.mp hsorted
    have hne : ∀ e ∈ rest, e.1 ≠ T := fun e he h => ShapeId.ne_of_compare_lt (hlt e he) h.symm
    have hT : f T = [] := hempty _ List.mem_cons_self
    obtain ⟨hshapes, hevents, hfactory⟩ := applyRow_setTraits hbase hl T
      ((hrows _ List.mem_cons_self).nodup_keys) (fun e _ => by rw [hT]; rfl)
    rw [hT] at hshapes
    obtain ⟨hshapes', hevents', hfactory'⟩ := ih hrest (fun e he => hrows e (List.mem_cons_of_mem _ he))
      hshapes (fun e he => by rw [Function.update_of_ne (hne e he)]; exact hempty e (List.mem_cons_of_mem _ he))
    rw [List.foldl_cons]
    rw [hfactory] at hshapes' hevents'
    refine ⟨?_, ?_, hfactory'.trans hfactory⟩
    · rw [hshapes']
      congr 1
      funext T'
      by_cases hT' : T' = T
      · -- no later row is the row of `T`
        subst hT'
        have hnone : rest.lookup T' = none := Keyed.lookup_eq_none_iff.mpr hne
        simp [hnone]
      · have hlookup : ((T, row) :: rest).lookup T' = rest.lookup T' := by
          simp [List.lookup, beq_false_of_ne hT']
        rw [hlookup, Function.update_of_ne hT']
    · rw [hevents', hevents]
      simp

/-- On a loader with tidy declarations and no trait yet, finishing traits gives
every ID the traits the factory creates from its row of the collected table,
and adds to the collected events only those of the values it refuses. -/
theorem finalizeTraits_setTraits {l : Loader} (hl : TidyDecls l.shapes) (declared : List ShapeId) :
    let acc := l.traits.foldl (l.collectTrait l.definitionIds declared) (l.events, [])
    (l.finalizeTraits declared).shapes = setTraitsAll (l.factory.createdFrom acc.2) l.shapes ∧
      (l.finalizeTraits declared).events =
        acc.1 ++ acc.2.flatMap (fun e => e.2.flatMap (l.factory.refusal e.1)) := by
  intro acc
  have htable : TableOf l l.definitionIds declared l.traits acc.2 := TableOf.foldl l.traits l.events
  -- tidy declarations carry no traits: they are their own declarations with none set
  have hbase : l.shapes = setTraitsAll (fun _ => []) l.shapes := by
    refine (List.map_congr_left fun e he => ?_).trans (List.map_id _) |>.symm
    rw [List.map_congr_left fun p hp => (hl.entries e he p hp).setTraits_empty, List.map_id']
    rfl
  obtain ⟨hshapes, hevents, -⟩ := foldl_applyRow_setTraits hl htable.sorted htable.rows_sorted
    (l := { l with traits := [], events := acc.1 }) hbase (fun _ _ => rfl)
  rw [finalizeTraits_eq]
  refine ⟨?_, hevents⟩
  rw [hshapes]
  congr 1
  funext T
  unfold TraitFactory.createdFrom
  cases acc.2.lookup T <;> rfl

end Loader

end ShapeKit
