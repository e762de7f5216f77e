import Mathlib.Data.List.Perm.Subperm
import Mathlib.Data.Nat.Find
import ShapeKit.Validation.NodeCheck
import ShapeKit.Proofs.ModelMembers

/-!
# When checking a node value ends

`visitValue` steps from a member to its target with the same value, and from
any other shape only into smaller values. A walk therefore follows, at each
node of the value, one chain of members and then takes one step into the
node's parts.

A chain of members either ends, at an ID that is no member, or comes back to
an ID it has visited and goes round for ever; the loader accepts both. A
chain that ends visits each member of the model at most once, so it ends
within `m.size` steps (`Model.exists_chainTo`). Hence:

  * a walk that ends at all ends within `m.size + 1` steps per node of the
    value, which is the fuel `checkNode` gives (`visitValue_within`);
  * checking ends on every value and from every shape exactly when no member
    is on a loop of members (`checkNode_ends`), a property decided by
    following every chain `m.size` steps (`Model.memberAcyclic_iff`).
-/

namespace ShapeKit

open Json

/-! ## §1. Sizes of values -/

theorem nodeSize_pos (v : Node) : 0 < nodeSize v := by
  cases v <;> simp only [nodeSize] <;> omega

theorem nodeSize_le_items {x : Node} {xs : List Node} (h : x ∈ xs) :
    nodeSize x ≤ nodeSizeItems xs := by
  induction xs with
  | nil => cases h
  | cons y ys ih =>
    rw [nodeSizeItems]
    rcases List.mem_cons.1 h with rfl | h
    · omega
    · have := ih h; omega

theorem nodeSize_le_entries {k : String} {x : Node} {es : List (String × Node)}
    (h : (k, x) ∈ es) : nodeSize x ≤ nodeSizeEntries es := by
  induction es with
  | nil => cases h
  | cons e es ih =>
    obtain ⟨k', y⟩ := e
    rw [nodeSizeEntries]
    rcases List.mem_cons.1 h with h | h
    · cases h; omega
    · have := ih h; omega

theorem nodeSize_lt_arr {x : Node} {xs : List Node} (h : x ∈ xs) :
    nodeSize x < nodeSize (.arr xs) := by
  have := nodeSize_le_items h
  rw [nodeSize]; omega

theorem nodeSize_lt_obj {k : String} {x : Node} {es : List (String × Node)} (h : (k, x) ∈ es) :
    nodeSize x < nodeSize (.obj es) := by
  have := nodeSize_le_entries h
  rw [nodeSize]; omega

/-- An object with an entry has a key smaller than itself. -/
theorem nodeSize_key_lt_obj {k : String} {x : Node} {es : List (String × Node)}
    (h : (k, x) ∈ es) : nodeSize (.str k) < nodeSize (.obj es) := by
  have := nodeSize_lt_obj h
  have := nodeSize_pos x
  have hk : nodeSize (.str k) = 1 := by simp [nodeSize]
  omega

/-- `mapM` in `Option` gives a result when each item does. -/
theorem isSome_mapM {α β : Type} {f : α → Option β} :
    ∀ {xs : List α}, (∀ x ∈ xs, (f x).isSome) → (xs.mapM f).isSome
  | [], _ => rfl
  | x :: xs, h => by
    obtain ⟨b, hb⟩ := Option.isSome_iff_exists.1 (h x (List.mem_cons_self ..))
    obtain ⟨bs, hbs⟩ := Option.isSome_iff_exists.1
      (isSome_mapM fun y hy => h y (List.mem_cons_of_mem x hy))
    simp [List.mapM_cons, hb, hbs]

/-! ## §2. Chains of members -/

namespace Model

/-- The target of the member with an ID: one step along a chain of members. -/
def memberTarget? (m : Model) (id : ShapeId) : Option ShapeId := (m.get? id).bind Shape.target

/-- Members each of which targets one of them: a chain of members from any of
them comes back for ever. -/
def MemberLoop (m : Model) (ids : List ShapeId) : Prop :=
  ∀ id ∈ ids, ∃ t ∈ ids, m.memberTarget? id = some t

instance (m : Model) : DecidablePred m.MemberLoop := fun ids =>
  inferInstanceAs (Decidable (∀ id ∈ ids, _))

/-- No member of the model is on a loop of members. -/
def MemberAcyclic (m : Model) : Prop := ∀ ids, m.MemberLoop ids → ids = []

/-- One step along a chain: a member goes to its target, any other ID stays. -/
def chainNext (m : Model) (id : ShapeId) : ShapeId := (m.memberTarget? id).getD id

/-- The ID `n` steps along the chain of members from `id`. -/
def chainAt (m : Model) : Nat → ShapeId → ShapeId
  | 0, id => id
  | n + 1, id => m.chainAt n (m.chainNext id)

/-- The chain of members from an ID reaches `e`, which is no member, after
exactly `k` steps. -/
inductive ChainTo (m : Model) : Nat → ShapeId → ShapeId → Prop
  | stop {e : ShapeId} : m.memberTarget? e = none → ChainTo m 0 e e
  | step {k : Nat} {id t e : ShapeId} : m.memberTarget? id = some t → ChainTo m k t e → ChainTo m (k + 1) id e

variable {m : Model}

theorem memberTarget?_eq_some {id t : ShapeId} :
    m.memberTarget? id = some t ↔ ∃ s, m.get? id = some s ∧ s.body = .member t := by
  simp only [memberTarget?, Option.bind_eq_some_iff, Shape.target]
  constructor
  · rintro ⟨s, hs, ht⟩
    refine ⟨s, hs, ?_⟩
    split at ht <;> simp_all
  · rintro ⟨s, hs, hb⟩
    exact ⟨s, hs, by simp [hb]⟩

/-- A member is a shape of the model under its own ID. -/
theorem mem_ids_of_memberTarget? {id t : ShapeId} (h : m.memberTarget? id = some t) :
    id ∈ m.shapes.map Shape.id := by
  obtain ⟨s, hs, -⟩ := memberTarget?_eq_some.1 h
  exact List.mem_map.2 ⟨s, List.mem_of_find?_eq_some hs, id_of_get? hs⟩

@[simp] theorem chainAt_zero (id : ShapeId) : m.chainAt 0 id = id := rfl

theorem chainAt_succ (n : Nat) (id : ShapeId) : m.chainAt (n + 1) id = m.chainAt n (m.chainNext id) := rfl

theorem chainAt_succ' (n : Nat) (id : ShapeId) : m.chainAt (n + 1) id = m.chainNext (m.chainAt n id) := by
  induction n generalizing id with
  | zero => rfl
  | succ n ih => exact ih (m.chainNext id)

theorem chainNext_of_some {id t : ShapeId} (h : m.memberTarget? id = some t) : m.chainNext id = t := by
  simp [chainNext, h]

theorem ChainTo.chainAt_eq {k : Nat} {id e : ShapeId} (h : m.ChainTo k id e) : m.chainAt k id = e := by
  induction h with
  | stop => rfl
  | step ht _ ih => rw [chainAt_succ, chainNext_of_some ht, ih]

theorem ChainTo.target_none {k : Nat} {id e : ShapeId} (h : m.ChainTo k id e) : m.memberTarget? e = none := by
  induction h with
  | stop h => exact h
  | step _ _ ih => exact ih

/-- Once a chain ends it stays at its end. -/
theorem chainAt_of_end {k : Nat} {id : ShapeId} (h : m.memberTarget? (m.chainAt k id) = none) :
    ∀ d, m.chainAt (k + d) id = m.chainAt k id := by
  intro d
  induction d with
  | zero => rfl
  | succ d ih => rw [← Nat.add_assoc, chainAt_succ', ih, chainNext, h, Option.getD_none]

/-- A chain from a member of a loop stays on the loop. -/
theorem MemberLoop.chainAt_mem {ids : List ShapeId} (hloop : m.MemberLoop ids) {id : ShapeId}
    (hid : id ∈ ids) : ∀ n, m.chainAt n id ∈ ids ∧ (m.memberTarget? (m.chainAt n id)).isSome := by
  intro n
  induction n with
  | zero =>
    obtain ⟨t, -, ht⟩ := hloop id hid
    exact ⟨hid, by simp [ht]⟩
  | succ n ih =>
    obtain ⟨t, ht, hmt⟩ := hloop _ ih.1
    rw [chainAt_succ', chainNext_of_some hmt]
    obtain ⟨t', -, ht'⟩ := hloop t ht
    exact ⟨ht, by simp [ht']⟩

/-- **Pigeonhole on a chain.** A chain whose first `m.size + 1` IDs are all
members visits one of them twice, and then the IDs before the second visit
form a loop through its start. -/
theorem exists_loop_of_members {id : ShapeId}
    (h : ∀ i ≤ m.size, (m.memberTarget? (m.chainAt i id)).isSome) : ∃ ids, id ∈ ids ∧ m.MemberLoop ids := by
  -- the first `m.size + 1` IDs of the chain are IDs of shapes, of which there are `m.size`
  have hsub : (List.range (m.size + 1)).map (m.chainAt · id) ⊆ m.shapes.map Shape.id := by
    intro x hx
    obtain ⟨i, hi, rfl⟩ := List.mem_map.1 hx
    obtain ⟨t, ht⟩ := Option.isSome_iff_exists.1 (h i (by simpa [Nat.lt_succ_iff] using hi))
    exact mem_ids_of_memberTarget? ht
  have hrep : ¬ ((List.range (m.size + 1)).map (m.chainAt · id)).Nodup := by
    intro hnd
    have := (hnd.subperm hsub).length_le
    simp only [List.length_map, List.length_range, size] at this
    omega
  obtain ⟨i, hi, j, hj, hij, hne⟩ : ∃ i ∈ List.range (m.size + 1), ∃ j ∈ List.range (m.size + 1),
      m.chainAt i id = m.chainAt j id ∧ i ≠ j := by
    by_contra hall
    push Not at hall
    exact hrep (List.Nodup.map_on (fun i hi j hj hij => hall i hi j hj hij) List.nodup_range)
  -- order the two visits: the chain comes back at `b` to where it was at `a`
  obtain ⟨a, b, hab, hb, heq⟩ : ∃ a b, a < b ∧ b ≤ m.size ∧ m.chainAt a id = m.chainAt b id := by
    rw [List.mem_range] at hi hj
    rcases Nat.lt_or_gt_of_ne hne with hlt | hlt
    · exact ⟨i, j, hlt, by omega, hij⟩
    · exact ⟨j, i, hlt, by omega, hij.symm⟩
  refine ⟨(List.range b).map (m.chainAt · id), List.mem_map.2 ⟨0, List.mem_range.2 (by omega), rfl⟩, ?_⟩
  intro x hx
  obtain ⟨k, hk, rfl⟩ := List.mem_map.1 hx
  rw [List.mem_range] at hk
  obtain ⟨t, ht⟩ := Option.isSome_iff_exists.1 (h k (by omega))
  refine ⟨t, ?_, ht⟩
  -- the next ID is the `k + 1`-th, or the `a`-th again when `k + 1 = b`
  have hnext : m.chainAt (k + 1) id = t := by rw [chainAt_succ', chainNext_of_some ht]
  rcases Nat.lt_or_ge (k + 1) b with hlt | hge
  · exact List.mem_map.2 ⟨k + 1, List.mem_range.2 hlt, hnext⟩
  · have hkb : k + 1 = b := by omega
    exact List.mem_map.2 ⟨a, List.mem_range.2 hab, by rw [heq, ← hkb, hnext]⟩

/-- The first end of a chain is reached by `ChainTo`. -/
theorem chainTo_of_first_end :
    ∀ {k : Nat} {id : ShapeId}, m.memberTarget? (m.chainAt k id) = none →
      (∀ i < k, (m.memberTarget? (m.chainAt i id)).isSome) → m.ChainTo k id (m.chainAt k id)
  | 0, _, hk, _ => .stop hk
  | k + 1, id, hk, hbefore => by
    obtain ⟨t, ht⟩ := Option.isSome_iff_exists.1 (hbefore 0 (Nat.succ_pos k))
    have hnext : m.chainNext id = t := chainNext_of_some ht
    rw [chainAt_succ, hnext] at hk ⊢
    refine .step ht (chainTo_of_first_end hk fun i hi => ?_)
    have := hbefore (i + 1) (by omega)
    rwa [chainAt_succ, hnext] at this

/-- A chain that is on no loop ends within `m.size` steps. -/
theorem exists_chainTo {id : ShapeId} (h : ¬ ∃ ids, id ∈ ids ∧ m.MemberLoop ids) :
    ∃ k ≤ m.size, ∃ e, m.ChainTo k id e := by
  have hend : ∃ i, i ≤ m.size ∧ m.memberTarget? (m.chainAt i id) = none := by
    by_contra hall
    push Not at hall
    exact h (exists_loop_of_members fun i hi => Option.isSome_iff_ne_none.2 (hall i hi))
  classical
  -- the first end of the chain
  refine ⟨Nat.find hend, (Nat.find_spec hend).1, _, chainTo_of_first_end (Nat.find_spec hend).2 fun i hi => ?_⟩
  have := Nat.find_min hend hi
  push Not at this
  exact Option.isSome_iff_ne_none.2 (this (by have := (Nat.find_spec hend).1; omega))

/-- A model has no loop of members exactly when every chain of members from
one of its shapes has ended after `m.size` steps. -/
theorem memberAcyclic_iff : m.MemberAcyclic ↔ ∀ s ∈ m.shapes, m.memberTarget? (m.chainAt m.size s.id) = none := by
  constructor
  · intro hm s _
    have hno : ¬ ∃ ids, s.id ∈ ids ∧ m.MemberLoop ids := by
      rintro ⟨ids, hid, hloop⟩
      cases hm ids hloop
      exact List.not_mem_nil hid
    obtain ⟨k, hk, e, he⟩ := exists_chainTo hno
    have hend : m.memberTarget? (m.chainAt k s.id) = none := by
      rw [he.chainAt_eq]
      exact he.target_none
    obtain ⟨d, hd⟩ := Nat.exists_eq_add_of_le hk
    rw [hd, chainAt_of_end hend d]
    exact hend
  · intro h ids hloop
    cases hids : ids with
    | nil => rfl
    | cons id rest =>
      -- a member of the loop is a shape whose chain never ends
      have hid : id ∈ ids := by simp [hids]
      obtain ⟨t, -, ht⟩ := hloop id hid
      obtain ⟨s, hs, -⟩ := memberTarget?_eq_some.1 ht
      have hsid : s.id = id := id_of_get? hs
      have hend := h s (List.mem_of_find?_eq_some hs)
      rw [hsid] at hend
      have := (hloop.chainAt_mem hid m.size).2
      rw [hend] at this
      cases this

instance : DecidablePred MemberAcyclic := fun _ =>
  decidable_of_iff _ memberAcyclic_iff.symm

end Model

/-! ## §3. Steps of the walk -/

/-- One step of the walk, with `visit` walking the parts: the body of
`visitValue` with its recursive calls given as a function. -/
def visitStep (m : Model) (visit : Node → ShapeId → String → Option (List NodeViolation))
    (value : Node) (id : ShapeId) (path : String) : Option (List NodeViolation) :=
  match m.get? id with
  | none => some [⟨path, s!"Unable to resolve shape `{id.text}`"⟩]
  | some s =>
    let typeError (expected : String) : String :=
      s!"Expected {expected} value for {s.type.name} shape `{s.id.text}`, found {(NodeType.of value).name}"
    let report (msg : String) : Option (List NodeViolation) := some [⟨path, msg⟩]
    let members (entries : List (String × Node)) : Option (List NodeViolation) :=
      List.flatten <$> entries.mapM fun (name, v) =>
        match s.member? name with
        | some mem => visit v mem.id (joinPath path name)
        | none =>
          let valid := ", ".intercalate (s.memberShapes.filterMap fun x => x.memberName.map fun n => s!"`{n}`")
          report s!"Invalid member `{name}` for `{s.id.text}`; valid members are [{valid}]"
    match s.body with
    | .member target => (constraintViolations s value path ++ ·) <$> visit value target path
    | .simple t => some ((simpleViolations s t value typeError).map (⟨path, ·⟩) ++ constraintViolations s value path)
    | .list mm | .set mm =>
      match value with
      | .arr items =>
        let unique := if s.type == .set && !distinctTexts items then
            [⟨path, s!"Set values of `{s.id.text}` must be unique"⟩] else []
        (fun inner => unique ++ inner.flatten ++ constraintViolations s value path) <$>
          items.zipIdx.mapM fun (item, i) => visit item mm.id s!"{path}[{i}]"
      | _ => report (typeError "array")
    | .map k v =>
      match value with
      | .obj entries =>
        (fun inner => inner.flatten ++ constraintViolations s value path) <$>
          entries.mapM fun (key, val) => do
            let keyIssues ← visit (.str key) k.id (joinPath path key)
            let valueIssues ← visit val v.id (joinPath path key)
            pure (keyIssues ++ valueIssues)
      | _ => report (typeError "object")
    | .structure ms =>
      match value with
      | .obj entries =>
        let missing := ms.filterMap fun mem =>
          let name := mem.id.member.getD ""
          if mem.traits.contains (ShapeId.prelude "required") && (Node.lookup name entries).isNone then
            some (⟨path, s!"Missing required structure member `{name}` for `{s.id.text}`"⟩ : NodeViolation)
          else none
        (fun found => missing ++ found ++ constraintViolations s value path) <$> members entries
      | _ => report (typeError "object")
    | .union _ =>
      match value with
      | .obj entries =>
        let count := if entries.length != 1 then
            [⟨path, s!"Union value for `{s.id.text}` must contain exactly one member, found {entries.length}"⟩]
          else []
        (fun found => count ++ found ++ constraintViolations s value path) <$> members entries
      | _ => report (typeError "object")
    | .operation _ | .resource _ | .service _ =>
      report s!"{s.type.name} shape `{s.id.text}` cannot be used to describe a node value"

/-- `mapM` in `Option` keeps its result when each item keeps its own. -/
theorem mapM_eq_some_of_imp {α β : Type} {f g : α → Option β} :
    ∀ {xs : List α} {rs : List β}, (∀ x ∈ xs, ∀ r, f x = some r → g x = some r) →
      xs.mapM f = some rs → xs.mapM g = some rs
  | [], _, _, h => h
  | x :: xs, rs, hfg, h => by
    simp only [List.mapM_cons, bind, Option.bind_eq_some_iff, pure, Option.some.injEq] at h ⊢
    obtain ⟨a, ha, as, has, rfl⟩ := h
    exact ⟨a, hfg x List.mem_cons_self a ha, as,
      mapM_eq_some_of_imp (fun y hy => hfg y (List.mem_cons_of_mem x hy)) has, rfl⟩

theorem map_eq_some_of_imp {α β : Type} {F : α → β} {x y : Option α} {r : β}
    (hxy : ∀ a, x = some a → y = some a) (h : F <$> x = some r) : F <$> y = some r := by
  simp only [Option.map_eq_map, Option.map_eq_some_iff] at h ⊢
  obtain ⟨a, ha, rfl⟩ := h
  exact ⟨a, hxy a ha, rfl⟩

section Steps

variable {m : Model} {fuel : Nat} {v : Node} {id : ShapeId} {path : String}
variable {f g : Node → ShapeId → String → Option (List NodeViolation)}

theorem visitValue_succ (m : Model) (fuel : Nat) (v : Node) (id : ShapeId) (path : String) :
    visitValue m (fuel + 1) v id path = visitStep m (visitValue m fuel) v id path := rfl

theorem visitValue_unresolved (h : m.get? id = none) :
    visitValue m (fuel + 1) v id path = some [⟨path, s!"Unable to resolve shape `{id.text}`"⟩] := by
  simp [visitValue, h]

/-- A member passes the value on to its target unchanged. -/
theorem visitStep_member {s : Shape} {t : ShapeId} (hs : m.get? id = some s) (hb : s.body = .member t) :
    visitStep m f v id path = (constraintViolations s v path ++ ·) <$> f v t path := by
  simp [visitStep, hs, hb]

theorem visitValue_member {s : Shape} {t : ShapeId} (hs : m.get? id = some s)
    (hb : s.body = .member t) :
    visitValue m (fuel + 1) v id path =
      (constraintViolations s v path ++ ·) <$> visitValue m fuel v t path :=
  visitStep_member hs hb

/-- Any other shape hands on only smaller values: a step from it keeps its
result when the walk of every smaller value keeps its own. -/
theorem visitStep_imp (he : m.memberTarget? id = none)
    (hfg : ∀ c id' path' r, nodeSize c < nodeSize v → f c id' path' = some r → g c id' path' = some r)
    {r : List NodeViolation} (h : visitStep m f v id path = some r) : visitStep m g v id path = some r := by
  cases hs : m.get? id with
  | none => simpa [visitStep, hs] using h
  | some s =>
    match hbody : s.body with
    | .member t => simp [Model.memberTarget?, hs, Shape.target, hbody] at he
    | .simple t => simpa [visitStep, hs, hbody] using h
    | .list mm | .set mm =>
      cases v <;> simp only [visitStep, hs, hbody] at h ⊢ <;> try exact h
      refine map_eq_some_of_imp (fun a => mapM_eq_some_of_imp ?_) h
      rintro ⟨item, i⟩ hi r'
      exact hfg _ _ _ _ (nodeSize_lt_arr (List.fst_mem_of_mem_zipIdx hi))
    | .map k val =>
      cases v <;> simp only [visitStep, hs, hbody] at h ⊢ <;> try exact h
      refine map_eq_some_of_imp (fun a => mapM_eq_some_of_imp ?_) h
      rintro ⟨key, x⟩ hx r' hr'
      simp only [bind, Option.bind_eq_some_iff] at hr' ⊢
      obtain ⟨a, ha, b, hb, hab⟩ := hr'
      exact ⟨a, hfg _ _ _ _ (nodeSize_key_lt_obj hx) ha, b, hfg _ _ _ _ (nodeSize_lt_obj hx) hb, hab⟩
    | .structure ms | .union ms =>
      cases v <;> simp only [visitStep, hs, hbody] at h ⊢ <;> try exact h
      refine map_eq_some_of_imp (fun a => map_eq_some_of_imp (fun a => mapM_eq_some_of_imp ?_)) h
      rintro ⟨name, x⟩ hx r'
      split
      · exact hfg _ _ _ _ (nodeSize_lt_obj hx)
      · exact fun h => h
    | .operation _ | .resource _ | .service _ => simpa [visitStep, hs, hbody] using h

/-- A step from a shape that is no member gives a result when the walk of
every smaller value does. -/
theorem visitStep_isSome (he : m.memberTarget? id = none)
    (hf : ∀ c id' path', nodeSize c < nodeSize v → (f c id' path').isSome) :
    (visitStep m f v id path).isSome := by
  cases hs : m.get? id with
  | none => simp [visitStep, hs]
  | some s =>
    match hbody : s.body with
    | .member t => simp [Model.memberTarget?, hs, Shape.target, hbody] at he
    | .simple t => simp [visitStep, hs, hbody]
    | .list mm | .set mm =>
      cases v <;> simp [visitStep, hs, hbody]
      apply isSome_mapM
      rintro ⟨item, i⟩ hi
      exact hf _ _ _ (nodeSize_lt_arr (List.fst_mem_of_mem_zipIdx hi))
    | .map k val =>
      cases v <;> simp [visitStep, hs, hbody]
      apply isSome_mapM
      rintro ⟨key, x⟩ hx
      obtain ⟨a, ha⟩ := Option.isSome_iff_exists.1 (hf _ k.id (joinPath path key) (nodeSize_key_lt_obj hx))
      obtain ⟨b, hb⟩ := Option.isSome_iff_exists.1 (hf _ val.id (joinPath path key) (nodeSize_lt_obj hx))
      simp [ha, hb]
    | .structure ms | .union ms =>
      cases v <;> simp [visitStep, hs, hbody]
      apply isSome_mapM
      rintro ⟨name, x⟩ hx
      split
      · exact hf _ _ _ (nodeSize_lt_obj hx)
      · rfl
    | .operation _ | .resource _ | .service _ => simp [visitStep, hs, hbody]

end Steps

/-! ## §4. Walks along chains of members -/

/-- Steps enough for the members' chains at every node of a value, and one
step more at each node. -/
theorem walkFuel_step (n : Nat) {c v : Node} (h : nodeSize c < nodeSize v) :
    n * nodeSize c + n ≤ n * nodeSize v :=
  calc n * nodeSize c + n = n * (nodeSize c + 1) := (Nat.mul_succ n _).symm
    _ ≤ n * nodeSize v := Nat.mul_le_mul_left n h

section Walks

variable {m : Model}

/-- A walk from a chain of members that ends reaches the end of the chain
with the same value, having collected the members' constraint problems. -/
theorem visitValue_chain {k : Nat} {id e : ShapeId} (hc : m.ChainTo k id e) (v : Node) (path : String) :
    ∃ cs, ∀ fuel, visitValue m (fuel + k) v id path = (cs ++ ·) <$> visitValue m fuel v e path := by
  induction hc with
  | stop _ => exact ⟨[], fun fuel => by simp⟩
  | @step k id t e ht _ ih =>
    obtain ⟨cs, hcs⟩ := ih
    obtain ⟨s, hs, hb⟩ := Model.memberTarget?_eq_some.1 ht
    refine ⟨constraintViolations s v path ++ cs, fun fuel => ?_⟩
    rw [← Nat.add_assoc, visitValue_member hs hb, hcs]
    simp [Function.comp_def]

/-- More fuel keeps the result of a walk that ends. -/
theorem visitValue_mono : ∀ {fuel fuel' : Nat} {v : Node} {id : ShapeId} {path : String}
    {r : List NodeViolation}, fuel ≤ fuel' → visitValue m fuel v id path = some r →
      visitValue m fuel' v id path = some r
  | 0, _, _, _, _, _, _, h => by simp [visitValue] at h
  | _ + 1, 0, _, _, _, _, hle, _ => absurd hle (by omega)
  | fuel + 1, fuel' + 1, v, id, path, r, hle, h => by
    rw [visitValue_succ] at h ⊢
    cases ht : m.memberTarget? id with
    | some t =>
      -- a member hands on the same value with one step less
      obtain ⟨s, hs, hb⟩ := Model.memberTarget?_eq_some.1 ht
      rw [visitStep_member hs hb] at h ⊢
      exact map_eq_some_of_imp (fun _ => visitValue_mono (by omega)) h
    | none => exact visitStep_imp ht (fun _ _ _ _ _ => visitValue_mono (by omega)) h

/-- A walk from members each targeting one of them never ends. -/
theorem visitValue_eq_none_of_loop {ids : List ShapeId} (hloop : m.MemberLoop ids) :
    ∀ {fuel : Nat} {v : Node} {id : ShapeId} {path : String}, id ∈ ids →
      visitValue m fuel v id path = none
  | 0, _, _, _, _ => rfl
  | fuel + 1, v, id, path, hid => by
    obtain ⟨t, ht, hmt⟩ := hloop id hid
    obtain ⟨s, hs, hb⟩ := Model.memberTarget?_eq_some.1 hmt
    rw [visitValue_member hs hb, visitValue_eq_none_of_loop hloop ht]
    rfl

/-- With no loop of members, a walk given `m.size + 1` steps per node of the
value ends: at each node the chain of members ends within `m.size` steps, and
its end hands on only smaller values. -/
theorem visitValue_isSome (hm : m.MemberAcyclic) (v : Node) {fuel : Nat} {id : ShapeId} {path : String}
    (hfuel : (m.size + 1) * nodeSize v ≤ fuel) : (visitValue m fuel v id path).isSome := by
  have hno : ¬ ∃ ids, id ∈ ids ∧ m.MemberLoop ids := by
    rintro ⟨ids, hid, hloop⟩
    cases hm ids hloop
    exact List.not_mem_nil hid
  obtain ⟨k, hk, e, hc⟩ := Model.exists_chainTo hno
  obtain ⟨cs, hcs⟩ := visitValue_chain hc v path
  have hN : m.size + 1 ≤ (m.size + 1) * nodeSize v := Nat.le_mul_of_pos_right _ (nodeSize_pos v)
  obtain ⟨g, rfl⟩ : ∃ g, fuel = g + 1 + k := ⟨fuel - k - 1, by omega⟩
  have hstep : (visitStep m (visitValue m g) v e path).isSome :=
    visitStep_isSome hc.target_none fun c _ _ hlt =>
      visitValue_isSome hm c (by have := walkFuel_step (m.size + 1) hlt; omega)
  rw [hcs, visitValue_succ]
  simpa using hstep
termination_by nodeSize v

/-- **The fuel bound.** A walk that ends at all ends within `m.size + 1`
steps per node of the value, with the same result. With more fuel than that
the chain from `id` ends, or the walk would not; past its end only smaller
values are walked, each within its own bound. -/
theorem visitValue_within (v : Node) {fuel : Nat} {id : ShapeId} {path : String} {r : List NodeViolation}
    (h : visitValue m fuel v id path = some r) :
    visitValue m ((m.size + 1) * nodeSize v) v id path = some r := by
  rcases Nat.le_total fuel ((m.size + 1) * nodeSize v) with hle | hgt
  · exact visitValue_mono hle h
  · have hno : ¬ ∃ ids, id ∈ ids ∧ m.MemberLoop ids := by
      rintro ⟨ids, hid, hloop⟩
      rw [visitValue_eq_none_of_loop hloop hid] at h
      cases h
    obtain ⟨k, hk, e, hc⟩ := Model.exists_chainTo hno
    obtain ⟨cs, hcs⟩ := visitValue_chain hc v path
    have hN : m.size + 1 ≤ (m.size + 1) * nodeSize v := Nat.le_mul_of_pos_right _ (nodeSize_pos v)
    obtain ⟨g, rfl⟩ : ∃ g, fuel = g + 1 + k := ⟨fuel - k - 1, by omega⟩
    obtain ⟨n, hn⟩ : ∃ n, (m.size + 1) * nodeSize v = n + 1 + k := ⟨(m.size + 1) * nodeSize v - k - 1, by omega⟩
    rw [hcs, visitValue_succ] at h
    rw [hn, hcs, visitValue_succ]
    refine map_eq_some_of_imp (fun a ha => visitStep_imp hc.target_none (fun c _ _ _ hlt hr => ?_) ha) h
    exact visitValue_mono (by have := walkFuel_step (m.size + 1) hlt; omega) (visitValue_within c hr)
termination_by nodeSize v

end Walks

/-! ## §5. Checking a value -/

section Check

variable {m : Model}

theorem checkNode_isSome (hm : m.MemberAcyclic) (v : Node) (id : ShapeId) : (checkNode m v id).isSome :=
  visitValue_isSome hm v le_rfl

theorem checkNode_eq_none_of_loop {ids : List ShapeId} (hloop : m.MemberLoop ids)
    {id : ShapeId} (hid : id ∈ ids) (v : Node) : checkNode m v id = none :=
  visitValue_eq_none_of_loop hloop hid

/-- Checking a value ends on every value and from every shape exactly when no
member of the model is on a loop of members; and the fuel `checkNode` gives is
enough for every walk that ends. -/
theorem checkNode_ends (m : Model) :
    (m.MemberAcyclic ↔ ∀ v id, (checkNode m v id).isSome) ∧
      ∀ fuel v id r, visitValue m fuel v id "" = some r → checkNode m v id = some r := by
  refine ⟨⟨fun hm => checkNode_isSome hm, fun hall ids hloop => ?_⟩, fun _ v _ _ h => visitValue_within v h⟩
  -- a member on a loop is checked for ever, whatever the value
  cases ids with
  | nil => rfl
  | cons id rest =>
    have := hall .null id
    rw [checkNode_eq_none_of_loop hloop List.mem_cons_self] at this
    cases this

/-- A chain of two members, `ns#A$a` to `ns#B$b` to the prelude's `String`
(absent from the model): no loop, so every check ends. -/
theorem checkNode_ends_member_chain :
    Model.MemberAcyclic ⟨[⟨⟨"ns", "A", some "a"⟩, .member ⟨"ns", "B", some "b"⟩, [], .none⟩,
        ⟨⟨"ns", "B", some "b"⟩, .member ⟨"smithy.api", "String", none⟩, [], .none⟩], []⟩ ∧
      (checkNode ⟨[⟨⟨"ns", "A", some "a"⟩, .member ⟨"ns", "B", some "b"⟩, [], .none⟩,
        ⟨⟨"ns", "B", some "b"⟩, .member ⟨"smithy.api", "String", none⟩, [], .none⟩], []⟩
        (.num (.nat 1)) ⟨"ns", "A", some "a"⟩).isSome :=
  ⟨by decide, ((checkNode_ends _).1.1 (by decide)) _ _⟩

/-- A member whose target is its own ID, which the loader accepts, is checked for ever. -/
theorem checkNode_self_target_never_ends :
    checkNode ⟨[⟨⟨"ns", "S", some "m"⟩, .member ⟨"ns", "S", some "m"⟩, [], .none⟩], []⟩
      (.num (.nat 1)) ⟨"ns", "S", some "m"⟩ = none := by
  have hloop : Model.MemberLoop ⟨[⟨⟨"ns", "S", some "m"⟩, .member ⟨"ns", "S", some "m"⟩, [], .none⟩], []⟩
      [⟨"ns", "S", some "m"⟩] := by decide
  exact checkNode_eq_none_of_loop hloop (List.mem_singleton_self _) _

end Check

end ShapeKit
