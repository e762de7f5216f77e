import ShapeKit.Proofs.Finish
import ShapeKit.Proofs.IdText

/-!
# Resolving references

`Loader.finish` first resolves every reference of every declaration
(`Loader.resolved`, the first stage that `finish_eq` names). An absolute
reference stands for itself. A relative one stands for the ID it names when a
recorded declaration declares that ID, as its own or as one of its members';
else, with the prelude in, for the prelude ID of the same relative name when
that prelude shape does not itself carry `private`; else for the ID it names.
A member of a private prelude shape does not carry `private` itself, so a
relative `StringList$member` reaches into the private `StringList`.

Each declaration applies its references in the order they were recorded, so
the errors of an operation and the operations and resources of a service or a
resource keep their declared order. Where references go depends on nothing
but the set of recorded IDs and whether the prelude is in. Declarations
registered in another order record the same IDs as long as none of them is
dropped as a repeat of the first declaration of its ID from the same place;
such a drop keeps the members of the dropped declaration out, and then the
order does matter.

Main statements:
  * `Loader.resolveRef_deferred` — where a relative reference goes;
  * `resolveAll_appends` — bindings come out in the order they were recorded;
  * `Loader.mem_declaredIds_foldl_onShape` — the IDs recorded by a run of
    declarations, when none is dropped as a repeat;
  * `Loader.references_resolve` — all of it together, with
    `Loader.resolveRef_foldl_onShape_perm`: registration order does not matter.
-/

namespace ShapeKit

open Keyed

/-! ## §1. Where a reference goes -/

namespace ShapeId

/-- The text of an ID is its namespace, `#` and its relative text. -/
theorem text_eq_relative (id : ShapeId) : id.text = id.ns ++ "#" ++ id.relative := by
  rcases id with ⟨ns, name, _ | m⟩ <;> simp [text, relative, String.append_assoc]

/-- The relative text of a valid ID holds no `#`. -/
theorem hash_not_mem_relative {id : ShapeId} (h : id.Valid) : '#' ∉ id.relative.toList := by
  have hname := isIdentifier_chars h.name
  rcases id with ⟨ns, name, _ | m⟩
  · exact fun hc => isIdentChar_ne_hash (hname.2 _ hc) rfl
  · have hm := isIdentifier_chars (h.member m rfl)
    simp only [relative, String.toList_append, List.mem_append]
    rintro ((hc | hc) | hc)
    · exact isIdentChar_ne_hash (hname.2 _ hc) rfl
    · simp at hc
    · exact isIdentChar_ne_hash (hm.2 _ hc) rfl

/-- The prelude ID of the same name and member as an ID. -/
abbrev inPrelude (id : ShapeId) : ShapeId := ⟨preludeNamespace, id.name, id.member⟩

/-- The relative text of a valid ID, read in the prelude namespace, names the
prelude ID of the same name and member. -/
theorem ofRelative_prelude {id : ShapeId} (h : id.Valid) :
    ofRelative preludeNamespace id.relative = .ok id.inPrelude := by
  have hns : isNamespace preludeNamespace = true := by decide +kernel
  have hvalid : id.inPrelude.Valid := Valid.of_parts hns h.name h.member
  have hrel : id.relative.toList.contains '#' = false := by
    simpa using hash_not_mem_relative h
  -- the text read is the text of the prelude ID, which reads back to it
  have htext : preludeNamespace ++ "#" ++ id.relative = id.inPrelude.text := by
    rw [text_eq_relative]
    rfl
  rw [ofRelative, hrel, if_neg Bool.false_ne_true, htext, parse_text hvalid]

end ShapeId

namespace Loader

/-- A relative reference goes to the recorded ID it names; else, with the
prelude in, to the public prelude shape of its relative name; else to the ID
it names. -/
theorem resolveRef_deferred (l : Loader) {e : ShapeId} (he : e.Valid) :
    l.resolveRef (.deferred e) =
      if e ∈ l.declaredIds then e
      else if l.includePrelude = true ∧ isPublicPreludeShape e.inPrelude = true then e.inPrelude
      else e := by
  simp only [resolveRef, List.contains_iff_mem, ShapeId.ofRelative_prelude he]
  by_cases hmem : e ∈ l.declaredIds
  · simp [hmem]
  · by_cases hpre : l.includePrelude = true
    · by_cases hpub : isPublicPreludeShape e.inPrelude = true
      · simp [hmem, hpre, hpub]
      · simp [hmem, hpre, hpub]
    · simp [hmem, hpre]

/-- Two loaders that record the same IDs, with the prelude alike, resolve
every reference alike. -/
theorem resolveRef_congr {l₁ l₂ : Loader} (hids : ∀ x, x ∈ l₁.declaredIds ↔ x ∈ l₂.declaredIds)
    (hprelude : l₁.includePrelude = l₂.includePrelude) : l₁.resolveRef = l₂.resolveRef := by
  funext r
  cases r with
  | resolved id => rfl
  | deferred e => simp only [resolveRef, List.contains_iff_mem, hids e, hprelude]

end Loader

/-! ## §2. Bindings keep their order -/

namespace Builder

variable (b : Builder) (t : ShapeId)

@[simp] theorem addOperation_type : (b.addOperation t).type = b.type := by
  unfold addOperation; split <;> rfl

@[simp] theorem addResource_type : (b.addResource t).type = b.type := by
  unfold addResource; split <;> rfl

@[simp] theorem addOperation_traits : (b.addOperation t).traits = b.traits := by
  unfold addOperation; split <;> rfl

@[simp] theorem addResource_traits : (b.addResource t).traits = b.traits := by
  unfold addResource; split <;> rfl

@[simp] theorem addOperation_operation : (b.addOperation t).operation = b.operation := by
  unfold addOperation; split <;> rfl

@[simp] theorem addResource_operation : (b.addResource t).operation = b.operation := by
  unfold addResource; split <;> rfl

@[simp] theorem setLifecycle_operations (w : String) :
    (b.setLifecycle w t).resource.operations = b.resource.operations := by
  unfold setLifecycle; split_ifs <;> rfl

@[simp] theorem setLifecycle_resources (w : String) :
    (b.setLifecycle w t).resource.resources = b.resource.resources := by
  unfold setLifecycle; split_ifs <;> rfl

end Builder

section Bind

variable (x : Binding) (b : Builder) (t : ShapeId)

/-- Binding an ID sets a part of the builder other than its traits and type. -/
@[simp] theorem Binding.apply_traits : (x.apply b t).traits = b.traits := by
  cases x <;> simp [Binding.apply, Builder.setTarget, Builder.setInput, Builder.setOutput,
    Builder.addError, Builder.setIdentifier, Builder.setLifecycle]

@[simp] theorem Binding.apply_type : (x.apply b t).type = b.type := by
  cases x <;> simp [Binding.apply, Builder.setTarget, Builder.setInput, Builder.setOutput,
    Builder.addError, Builder.setIdentifier, Builder.setLifecycle]

/-! The lists a binding appends to: errors always, operations and resources to
the resource data of a resource and to the service data of anything else. -/

theorem Binding.apply_errors :
    (x.apply b t).operation.errors = b.operation.errors ++ if x = .error then [t] else [] := by
  cases x <;> simp [Binding.apply, Builder.setTarget, Builder.setInput, Builder.setOutput,
    Builder.addError, Builder.setIdentifier, Builder.setLifecycle]

theorem Binding.apply_resourceOperations (h : b.type = .resource) :
    (x.apply b t).resource.operations = b.resource.operations ++ if x = .operation then [t] else [] := by
  cases x <;> simp [Binding.apply, Builder.setTarget, Builder.setInput, Builder.setOutput,
    Builder.addError, Builder.addOperation, Builder.addResource, Builder.setIdentifier, h]

theorem Binding.apply_resourceResources (h : b.type = .resource) :
    (x.apply b t).resource.resources = b.resource.resources ++ if x = .resource then [t] else [] := by
  cases x <;> simp [Binding.apply, Builder.setTarget, Builder.setInput, Builder.setOutput,
    Builder.addError, Builder.addOperation, Builder.addResource, Builder.setIdentifier, h]

theorem Binding.apply_serviceOperations (h : b.type ≠ .resource) :
    (x.apply b t).service.operations = b.service.operations ++ if x = .operation then [t] else [] := by
  cases x <;> simp [Binding.apply, Builder.setTarget, Builder.setInput, Builder.setOutput,
    Builder.addError, Builder.addOperation, Builder.addResource, Builder.setIdentifier,
    Builder.setLifecycle, h]

theorem Binding.apply_serviceResources (h : b.type ≠ .resource) :
    (x.apply b t).service.resources = b.service.resources ++ if x = .resource then [t] else [] := by
  cases x <;> simp [Binding.apply, Builder.setTarget, Builder.setInput, Builder.setOutput,
    Builder.addError, Builder.addOperation, Builder.addResource, Builder.setIdentifier,
    Builder.setLifecycle, h]

end Bind

/-- The IDs that the references of one kind of binding stand for, in the order
the references were recorded. -/
def boundBy (resolve : ShapeReference → ShapeId) (how : Binding) (refs : List (ShapeReference × Binding)) :
    List ShapeId :=
  refs.filterMap fun x => if x.2 = how then some (resolve x.1) else none

theorem boundBy_cons (resolve : ShapeReference → ShapeId) (how : Binding) (r : ShapeReference) (x : Binding)
    (refs : List (ShapeReference × Binding)) :
    boundBy resolve how ((r, x) :: refs) = (if x = how then [resolve r] else []) ++ boundBy resolve how refs := by
  by_cases h : x = how <;> simp [boundBy, h]

/-- A list of the builder that one kind of binding appends to, and no other
binding changes, ends as it was with the IDs bound that way after it, in the
order of the references. -/
theorem resolveAll_appends (resolve : ShapeReference → ShapeId) (f : Builder → List ShapeId) (how : Binding)
    (b : Builder) (hstep : ∀ (x : Binding) (b' : Builder) (t : ShapeId), b'.type = b.type →
      f (x.apply b' t) = f b' ++ if x = how then [t] else [])
    (refs : List (ShapeReference × Binding)) :
    f (resolveAll resolve b refs) = f b ++ boundBy resolve how refs := by
  induction refs generalizing b with
  | nil => simp [resolveAll, boundBy]
  | cons e rest ih =>
    obtain ⟨r, x⟩ := e
    -- every builder along the way has the type of the first
    have hnext := ih (x.apply b (resolve r)) fun y b' t hb' => hstep y b' t (by rw [hb', Binding.apply_type])
    simp only [resolveAll, List.foldl_cons] at hnext ⊢
    rw [hnext, hstep x b (resolve r) rfl, boundBy_cons, List.append_assoc]

/-! ## §3. The IDs a run of declarations records -/

section PutAppend

variable {κ β γ : Type} [DecidableEq κ] {cmp : κ → κ → Ordering} [Std.LawfulEqCmp cmp]

/-- The elements of a value found under a key are elements of the list. -/
theorem mem_flatMap_of_lookup (g : β → List γ) {l : List (κ × List β)} {k : κ} {y : γ}
    (h : y ∈ ((l.lookup k).getD []).flatMap g) : y ∈ l.flatMap fun e => e.2.flatMap g := by
  cases hk : l.lookup k with
  | none => simp [hk] at h
  | some v =>
    obtain ⟨l₁, l₂, rfl, -⟩ := List.lookup_eq_some_iff.mp hk
    rw [hk, Option.getD_some] at h
    simp only [List.flatMap_append, List.flatMap_cons, List.mem_append]
    exact .inr (.inl h)

/-- Putting, under a key, the value found there with more appended keeps every
element of every value and adds the appended ones. -/
theorem mem_flatMap_put_append (g : β → List γ) (l : List (κ × List β)) (k : κ) (xs : List β) (y : γ) :
    y ∈ (put cmp Prod.fst l (k, (l.lookup k).getD [] ++ xs)).flatMap (fun e => e.2.flatMap g) ↔
      y ∈ (l.flatMap fun e => e.2.flatMap g) ∨ y ∈ xs.flatMap g := by
  induction l with
  | nil => simp [put]
  | cons e rest ih =>
    obtain ⟨k', v'⟩ := e
    unfold put
    split
    · next hlt =>
      -- a new first key: whatever `rest` had under `k` stays further on
      have hne : k ≠ k' := fun hk => by simp [hk, Std.ReflCmp.compare_self] at hlt
      have hlook : ((k', v') :: rest).lookup k = rest.lookup k := by
        rw [List.lookup_cons, beq_false_of_ne hne]
      rw [hlook]
      constructor
      · intro hy
        simp only [List.flatMap_cons, List.mem_append, List.flatMap_append] at hy ⊢
        rcases hy with (hy | hy) | hy
        · exact .inl (.inr (mem_flatMap_of_lookup g hy))
        · exact .inr hy
        · exact .inl hy
      · intro hy
        simp only [List.flatMap_cons, List.mem_append, List.flatMap_append] at hy ⊢
        tauto
    · next heq =>
      -- the key is there: its value is replaced by itself with more
      have hk : k = k' := Std.LawfulEqCmp.eq_of_compare heq
      subst hk
      simp only [List.lookup, beq_self_eq_true, Option.getD_some, List.flatMap_cons, List.mem_append,
        List.flatMap_append]
      tauto
    · next hgt =>
      have hne : k ≠ k' := fun hk => by simp [hk, Std.ReflCmp.compare_self] at hgt
      have hlook : ((k', v') :: rest).lookup k = rest.lookup k := by
        rw [List.lookup_cons, beq_false_of_ne hne]
      rw [hlook]
      simp only [List.flatMap_cons, List.mem_append, ih]
      tauto

end PutAppend

namespace PendingShape

/-- Two declarations kept apart by `onShape`: the first one's place is unknown
or is not the other's. -/
def PlaceApart (p q : PendingShape) : Prop := p.source.isNone = true ∨ p.source ≠ q.source

theorem PlaceApart.symm {p q : PendingShape} (h : p.PlaceApart q) : q.PlaceApart p := by
  by_cases hs : p.source = q.source
  · rcases h with h | h
    · exact .inl (hs ▸ h)
    · exact absurd hs h
  · exact .inr (Ne.symm hs)

/-- `onShape`'s test for a repeat is the negation of being apart. -/
theorem repeat_eq_false_iff (first p : PendingShape) :
    (!first.source.isNone && first.source == p.source) = false ↔ first.PlaceApart p := by
  unfold PlaceApart
  cases first.source.isNone <;> simp

end PendingShape

namespace Loader

/-- `onShape` records a declaration unless it has no ID or, with the prelude in,
names a prelude shape. -/
def Registers (l : Loader) (p : PendingShape) : Prop :=
  ∃ id, p.id = some id ∧ ¬(l.includePrelude = true ∧ isPreludeShape id = true)

/-- No declaration of the run is dropped as a repeat: each is apart from the
first declaration already recorded under its ID, and any two of the run with
one ID are apart. -/
def NoRepeats (l : Loader) (ps : List PendingShape) : Prop :=
  (∀ p ∈ ps, ∀ id, p.id = some id → ∀ first ∈ ((l.shapes.lookup id).getD []).head?, first.PlaceApart p) ∧
    ps.Pairwise fun p q => ∀ id, p.id = some id → q.id = some id → p.PlaceApart q

@[simp] theorem onShape_includePrelude (l : Loader) (p : PendingShape) :
    (l.onShape p).includePrelude = l.includePrelude := by
  unfold onShape
  split
  · rfl
  · split
    · rfl
    · dsimp only
      split_ifs <;> rfl

theorem foldl_onShape_includePrelude (l : Loader) (ps : List PendingShape) :
    (ps.foldl onShape l).includePrelude = l.includePrelude := by
  induction ps generalizing l with
  | nil => rfl
  | cons p ps ih => rw [List.foldl_cons, ih, onShape_includePrelude]

theorem registers_onShape {l : Loader} {p q : PendingShape} : (l.onShape p).Registers q ↔ l.Registers q := by
  simp [Registers]

/-- A declaration either leaves the recorded ones as they are or is appended to
those under its ID. -/
theorem onShape_shapes (l : Loader) (p : PendingShape) :
    (l.onShape p).shapes = l.shapes ∨
      ∃ id, p.id = some id ∧ (l.onShape p).shapes = putById l.shapes id ((l.shapes.lookup id).getD [] ++ [p]) := by
  unfold onShape
  split
  · exact .inl rfl
  · next id hid =>
    split
    · exact .inl rfl
    · dsimp only
      split_ifs
      · exact .inl rfl
      · exact .inr ⟨id, hid, rfl⟩

/-- A registered declaration apart from the first one under its ID is appended
to those under its ID. -/
theorem onShape_of_registers {l : Loader} {p : PendingShape} {id : ShapeId} (hid : p.id = some id)
    (hpre : ¬(l.includePrelude = true ∧ isPreludeShape id = true))
    (hfirst : ∀ first ∈ ((l.shapes.lookup id).getD []).head?, first.PlaceApart p) :
    (l.onShape p).shapes = putById l.shapes id ((l.shapes.lookup id).getD [] ++ [p]) := by
  unfold onShape
  rw [hid]
  dsimp only
  rw [if_neg (by simpa using hpre)]
  cases hhead : ((l.shapes.lookup id).getD []).head? with
  | none => rfl
  | some first =>
    -- the repeat test fails on the first declaration
    have hrep := (PendingShape.repeat_eq_false_iff first p).mpr (hfirst first hhead)
    simp only [hrep, Bool.false_eq_true, if_false]

/-- An unregistered declaration records nothing. -/
theorem onShape_of_not_registers {l : Loader} {p : PendingShape} (h : ¬ l.Registers p) :
    (l.onShape p).shapes = l.shapes := by
  unfold onShape
  split
  · rfl
  · next id hid =>
    rw [if_pos (by by_contra hpre; exact h ⟨id, hid, by simpa using hpre⟩)]

theorem declaredIds_eq (l : Loader) : l.declaredIds = l.shapes.flatMap fun e => e.2.flatMap PendingShape.ids := rfl

/-- A declaration apart from the first under its ID records its IDs when it is
registered, and nothing else. -/
theorem mem_declaredIds_onShape {l : Loader} {p : PendingShape} {x : ShapeId}
    (hfirst : ∀ id, p.id = some id → ∀ first ∈ ((l.shapes.lookup id).getD []).head?, first.PlaceApart p) :
    x ∈ (l.onShape p).declaredIds ↔ x ∈ l.declaredIds ∨ (l.Registers p ∧ x ∈ p.ids) := by
  by_cases hreg : l.Registers p
  · have ⟨id, hid, hpre⟩ := hreg
    rw [declaredIds_eq, onShape_of_registers hid hpre (hfirst id hid), putById_eq, mem_flatMap_put_append]
    simp [declaredIds_eq, hreg]
  · rw [declaredIds_eq, onShape_of_not_registers hreg]
    simp [declaredIds_eq, hreg]

/-- The first declaration under an ID after one more is the one before, or the
new one when there was none. -/
theorem head_lookup_onShape {l : Loader} {p first : PendingShape} {id : ShapeId}
    (h : first ∈ (((l.onShape p).shapes.lookup id).getD []).head?) :
    first ∈ ((l.shapes.lookup id).getD []).head? ∨ (first = p ∧ p.id = some id) := by
  rcases onShape_shapes l p with hsame | ⟨id', hid', hput⟩
  · exact .inl (hsame ▸ h)
  · rw [hput, putById_eq, lookup_put] at h
    by_cases hk : id' = id
    · subst hk
      rw [if_pos rfl, Option.getD_some, List.head?_append] at h
      cases hhead : ((l.shapes.lookup id').getD []).head? with
      | none =>
        rw [hhead] at h
        exact .inr ⟨(by simpa using h : p = first).symm, hid'⟩
      | some f =>
        rw [hhead] at h
        exact .inl (by simpa using h)
    · rw [if_neg hk] at h
      exact .inl h

/-- The IDs a run of declarations records, none of them a repeat: those
recorded before and those of every registered declaration of the run. -/
theorem mem_declaredIds_foldl_onShape {l : Loader} {ps : List PendingShape} {x : ShapeId}
    (h : l.NoRepeats ps) :
    x ∈ (ps.foldl onShape l).declaredIds ↔ x ∈ l.declaredIds ∨ ∃ p ∈ ps, l.Registers p ∧ x ∈ p.ids := by
  induction ps generalizing l with
  | nil => simp
  | cons p ps ih =>
    obtain ⟨hfirst, hpair⟩ := h
    rw [List.pairwise_cons] at hpair
    -- the rest of the run stays apart from the first declarations after this one
    have hrest : (l.onShape p).NoRepeats ps := by
      refine ⟨fun q hq id hqid first hmem => ?_, hpair.2⟩
      rcases head_lookup_onShape hmem with hold | ⟨rfl, hpid⟩
      · exact hfirst q (List.mem_cons_of_mem p hq) id hqid first hold
      · exact hpair.1 q hq id hpid hqid
    rw [List.foldl_cons, ih hrest, mem_declaredIds_onShape (hfirst p List.mem_cons_self)]
    simp only [registers_onShape, List.mem_cons, exists_eq_or_imp]
    tauto

theorem NoRepeats.perm {l : Loader} {ps qs : List PendingShape} (h : l.NoRepeats ps) (hperm : ps.Perm qs) :
    l.NoRepeats qs :=
  ⟨fun q hq => h.1 q (hperm.mem_iff.mpr hq),
    (hperm.pairwise_iff fun hpq id hq hp => (hpq id hp hq).symm).mp h.2⟩

/-- Declarations registered in any order, none of them a repeat, resolve every
reference alike. -/
theorem resolveRef_foldl_onShape_perm {l : Loader} {ps qs : List PendingShape} (hperm : ps.Perm qs)
    (h : l.NoRepeats ps) : (ps.foldl onShape l).resolveRef = (qs.foldl onShape l).resolveRef := by
  refine resolveRef_congr (fun x => ?_) (by rw [foldl_onShape_includePrelude, foldl_onShape_includePrelude])
  rw [mem_declaredIds_foldl_onShape h, mem_declaredIds_foldl_onShape (h.perm hperm)]
  simp only [hperm.mem_iff]

/-- A declaration that repeats the place of the first one under its ID is
dropped: the loader stays as it was. -/
theorem onShape_of_repeat {l : Loader} {p first : PendingShape} {id : ShapeId} (hid : p.id = some id)
    (hfirst : first ∈ ((l.shapes.lookup id).getD []).head?) (hrep : ¬ first.PlaceApart p) : l.onShape p = l := by
  have htest : (!first.source.isNone && first.source == p.source) = true := by
    simpa using mt (PendingShape.repeat_eq_false_iff first p).mp hrep
  unfold onShape
  rw [hid]
  dsimp only
  rw [Option.mem_def.mp hfirst]
  split_ifs <;> rfl

/-- Of two declarations of one ID from one known place, only the first one's
IDs are recorded. -/
theorem mem_declaredIds_repeat_pair {a b : PendingShape} {id : ShapeId} (ha : a.id = some id)
    (hb : b.id = some id) (hpre : isPreludeShape id = false) (hrep : ¬ a.PlaceApart b) (x : ShapeId) :
    x ∈ ([a, b].foldl onShape {}).declaredIds ↔ x ∈ a.ids := by
  have hreg : ({} : Loader).Registers a := ⟨id, ha, by simp [hpre]⟩
  have hshapes : (({} : Loader).onShape a).shapes = [(id, [a])] := by
    rw [onShape_of_registers ha (by simp [hpre]) (by simp)]
    rfl
  have hfirst : a ∈ (((({} : Loader).onShape a).shapes.lookup id).getD []).head? := by
    simp [hshapes]
  rw [List.foldl_cons, List.foldl_cons, List.foldl_nil, onShape_of_repeat hb hfirst hrep,
    mem_declaredIds_onShape (by simp)]
  simp [hreg, declaredIds]

/-! ## §4. Resolution as a whole -/

/-- Where `finish` resolves references: an absolute reference to itself; a
relative one to the recorded ID it names, else (with the prelude in) to the
public prelude shape of its relative name, else to the ID it names. Each
declaration binds its references in the order they were recorded. Where
references go depends only on the recorded IDs and on whether the prelude is
in, so declarations registered in any order, none of them a repeat of the
first one under its ID from the same place, resolve references alike. -/
theorem references_resolve :
    (∀ (l : Loader) (id : ShapeId), l.resolveRef (.resolved id) = id) ∧
    (∀ (l : Loader) (e : ShapeId), e.Valid →
      l.resolveRef (.deferred e) =
        if e ∈ l.declaredIds then e
        else if l.includePrelude = true ∧ isPublicPreludeShape e.inPrelude = true then e.inPrelude
        else e) ∧
    (∀ (l : Loader) (p : PendingShape),
      (p.resolve l.resolveRef).builder.operation.errors =
          p.builder.operation.errors ++ boundBy l.resolveRef .error p.refs ∧
      (p.builder.type = .resource →
        (p.resolve l.resolveRef).builder.resource.operations =
            p.builder.resource.operations ++ boundBy l.resolveRef .operation p.refs ∧
        (p.resolve l.resolveRef).builder.resource.resources =
            p.builder.resource.resources ++ boundBy l.resolveRef .resource p.refs) ∧
      (p.builder.type ≠ .resource →
        (p.resolve l.resolveRef).builder.service.operations =
            p.builder.service.operations ++ boundBy l.resolveRef .operation p.refs ∧
        (p.resolve l.resolveRef).builder.service.resources =
            p.builder.service.resources ++ boundBy l.resolveRef .resource p.refs)) ∧
    (∀ l₁ l₂ : Loader, (∀ x, x ∈ l₁.declaredIds ↔ x ∈ l₂.declaredIds) →
      l₁.includePrelude = l₂.includePrelude → l₁.resolveRef = l₂.resolveRef) ∧
    (∀ (l : Loader) (ps qs : List PendingShape), ps.Perm qs → l.NoRepeats ps →
      (ps.foldl onShape l).resolveRef = (qs.foldl onShape l).resolveRef) := by
  refine ⟨fun _ _ => rfl, fun l _ he => l.resolveRef_deferred he, fun l p => ?_,
    fun _ _ => resolveRef_congr, fun _ _ _ => resolveRef_foldl_onShape_perm⟩
  -- each list a binding appends to, for the type of builder that holds it
  refine ⟨resolveAll_appends l.resolveRef (·.operation.errors) .error p.builder
      (fun x b t _ => Binding.apply_errors x b t) p.refs, fun h => ⟨?_, ?_⟩, fun h => ⟨?_, ?_⟩⟩
  · exact resolveAll_appends l.resolveRef (·.resource.operations) .operation p.builder
      (fun x b t hb => Binding.apply_resourceOperations x b t (hb.trans h)) p.refs
  · exact resolveAll_appends l.resolveRef (·.resource.resources) .resource p.builder
      (fun x b t hb => Binding.apply_resourceResources x b t (hb.trans h)) p.refs
  · exact resolveAll_appends l.resolveRef (·.service.operations) .operation p.builder
      (fun x b t hb => Binding.apply_serviceOperations x b t (hb ▸ h)) p.refs
  · exact resolveAll_appends l.resolveRef (·.service.resources) .resource p.builder
      (fun x b t hb => Binding.apply_serviceResources x b t (hb ▸ h)) p.refs

/-- With the prelude out a relative reference to nothing recorded stays where
it names, and two declarations of one ID from two files resolve references
alike in either order. -/
theorem references_resolve_two_files :
    ({ includePrelude := false } : Loader).resolveRef (.deferred ⟨"ns", "StringList", some "member"⟩) =
        ⟨"ns", "StringList", some "member"⟩ ∧
    ([{ builder := (Builder.new .structure).setId ⟨"ns", "A", none⟩ |>.setSource ⟨"a.json", 1, 1⟩ },
        { builder := (Builder.new .structure).setId ⟨"ns", "A", none⟩ |>.setSource ⟨"b.json", 1, 1⟩ }].foldl
        onShape ({} : Loader)).resolveRef =
      ([{ builder := (Builder.new .structure).setId ⟨"ns", "A", none⟩ |>.setSource ⟨"b.json", 1, 1⟩ },
        { builder := (Builder.new .structure).setId ⟨"ns", "A", none⟩ |>.setSource ⟨"a.json", 1, 1⟩ }].foldl
        onShape ({} : Loader)).resolveRef := by
  have hvalid : (⟨"ns", "StringList", some "member"⟩ : ShapeId).Valid :=
    ShapeId.Valid.of_parts (by decide +kernel) (by decide +kernel) fun m hm => by cases hm; decide +kernel
  have hapart : NoRepeats {}
      [{ builder := (Builder.new .structure).setId ⟨"ns", "A", none⟩ |>.setSource ⟨"a.json", 1, 1⟩ },
        { builder := (Builder.new .structure).setId ⟨"ns", "A", none⟩ |>.setSource ⟨"b.json", 1, 1⟩ }] :=
    ⟨by simp, List.pairwise_pair.mpr fun _ _ _ => .inr (by decide)⟩
  refine ⟨?_, references_resolve.2.2.2.2 {} _ _ (List.Perm.swap _ _ []) hapart⟩
  rw [references_resolve.2.1 _ _ hvalid, if_neg (by simp [declaredIds]), if_neg (by simp)]

/-- Prelude facts: `StringList` is private, its member and the member `uri` of
`http` are public, and `ns#http` is no prelude shape. -/
theorem prelude_stringList_http :
    isPublicPreludeShape ⟨preludeNamespace, "StringList", some "member"⟩ = true ∧
    isPublicPreludeShape (ShapeId.prelude "StringList") = false ∧
    isPublicPreludeShape ⟨preludeNamespace, "http", some "uri"⟩ = true ∧
    isPreludeShape ⟨"ns", "http", none⟩ = false := by
  decide +kernel

/-- What resolution does against a rule that would keep members of private
prelude shapes out and not depend on the order of registration: the member
of the private `StringList` is reached, and a declaration of `ns#http` from
the place of the first one is dropped with its member `uri`, so a relative
`http$uri` goes to the prelude or stays in `ns` by the order of the two. -/
theorem resolveRef_reaches_private_member_and_depends_on_order :
    isPublicPreludeShape (ShapeId.prelude "StringList") = false ∧
    ({} : Loader).resolveRef (.deferred ⟨"ns", "StringList", some "member"⟩) =
        ⟨preludeNamespace, "StringList", some "member"⟩ ∧
    ([{ builder := (Builder.new .structure).setId ⟨"ns", "http", none⟩ |>.setSource ⟨"a.json", 1, 1⟩,
          members := [{ builder := (Builder.new .member).setId ⟨"ns", "http", some "xyz"⟩ }] },
        { builder := (Builder.new .structure).setId ⟨"ns", "http", none⟩ |>.setSource ⟨"a.json", 1, 1⟩,
          members := [{ builder := (Builder.new .member).setId ⟨"ns", "http", some "uri"⟩ }] }].foldl
        onShape ({} : Loader)).resolveRef (.deferred ⟨"ns", "http", some "uri"⟩) =
      ⟨preludeNamespace, "http", some "uri"⟩ ∧
    ([{ builder := (Builder.new .structure).setId ⟨"ns", "http", none⟩ |>.setSource ⟨"a.json", 1, 1⟩,
          members := [{ builder := (Builder.new .member).setId ⟨"ns", "http", some "uri"⟩ }] },
        { builder := (Builder.new .structure).setId ⟨"ns", "http", none⟩ |>.setSource ⟨"a.json", 1, 1⟩,
          members := [{ builder := (Builder.new .member).setId ⟨"ns", "http", some "xyz"⟩ }] }].foldl
        onShape ({} : Loader)).resolveRef (.deferred ⟨"ns", "http", some "uri"⟩) =
      ⟨"ns", "http", some "uri"⟩ := by
  obtain ⟨hmember, hprivate, hhttp, hns⟩ := prelude_stringList_http
  have hlist : (⟨"ns", "StringList", some "member"⟩ : ShapeId).Valid :=
    ShapeId.Valid.of_parts (by decide +kernel) (by decide +kernel) fun m hm => by cases hm; decide +kernel
  have huri : (⟨"ns", "http", some "uri"⟩ : ShapeId).Valid :=
    ShapeId.Valid.of_parts (by decide +kernel) (by decide +kernel) fun m hm => by cases hm; decide +kernel
  -- both declarations come from `a.json:1:1`, so the second is a repeat
  have hplace : ∀ m m' : String, ¬ PendingShape.PlaceApart
      { builder := (Builder.new .structure).setId ⟨"ns", "http", none⟩ |>.setSource ⟨"a.json", 1, 1⟩,
        members := [{ builder := (Builder.new .member).setId ⟨"ns", "http", some m⟩ }] }
      { builder := (Builder.new .structure).setId ⟨"ns", "http", none⟩ |>.setSource ⟨"a.json", 1, 1⟩,
        members := [{ builder := (Builder.new .member).setId ⟨"ns", "http", some m'⟩ }] } := by
    intro m m'
    simp [PendingShape.PlaceApart, PendingShape.source, Builder.setSource, Builder.setId, Builder.new,
      SourceLocation.isNone]
  refine ⟨hprivate, ?_, ?_, ?_⟩
  · rw [resolveRef_deferred _ hlist, if_neg (by simp [declaredIds]),
      if_pos ⟨rfl, hmember⟩]
  · have hout : (⟨"ns", "http", some "uri"⟩ : ShapeId) ∉
        ([{ builder := (Builder.new .structure).setId ⟨"ns", "http", none⟩ |>.setSource ⟨"a.json", 1, 1⟩,
              members := [{ builder := (Builder.new .member).setId ⟨"ns", "http", some "xyz"⟩ }] },
            { builder := (Builder.new .structure).setId ⟨"ns", "http", none⟩ |>.setSource ⟨"a.json", 1, 1⟩,
              members := [{ builder := (Builder.new .member).setId ⟨"ns", "http", some "uri"⟩ }] }].foldl
            onShape ({} : Loader)).declaredIds := by
      rw [mem_declaredIds_repeat_pair rfl rfl hns (hplace "xyz" "uri")]
      decide
    rw [resolveRef_deferred _ huri, if_neg hout, if_pos ⟨foldl_onShape_includePrelude _ _, hhttp⟩]
  · have hin : (⟨"ns", "http", some "uri"⟩ : ShapeId) ∈
        ([{ builder := (Builder.new .structure).setId ⟨"ns", "http", none⟩ |>.setSource ⟨"a.json", 1, 1⟩,
              members := [{ builder := (Builder.new .member).setId ⟨"ns", "http", some "uri"⟩ }] },
            { builder := (Builder.new .structure).setId ⟨"ns", "http", none⟩ |>.setSource ⟨"a.json", 1, 1⟩,
              members := [{ builder := (Builder.new .member).setId ⟨"ns", "http", some "xyz"⟩ }] }].foldl
            onShape ({} : Loader)).declaredIds := by
      rw [mem_declaredIds_repeat_pair rfl rfl hns (hplace "uri" "xyz")]
      decide
    rw [resolveRef_deferred _ huri, if_pos hin]

end Loader

end ShapeKit
