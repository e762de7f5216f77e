import ShapeKit.Proofs.Reload.Steps
import ShapeKit.Proofs.JsonKeys
import ShapeKit.Proofs.TraitApply

/-!
# JSON AST loads keep a loader tidy

A JSON AST load declares each shape with a fresh builder under its own ID, and
one fresh member builder per member, named by the keys of an object, which the
reader keeps distinct (`read_keysDistinct`). So every load keeps
`Loader.Tidy`, whether it succeeds or stops at a malformed part
(`Loader.Tidy.load`), and every loader that a run of loads reaches from one
with no declarations and no metadata is tidy (`Loader.loadAll_tidy`).

The proof follows the steps of a load in the invariant logic of loading steps
(`LoadM.Keeps`), one lemma per reading step.
-/

namespace ShapeKit

open Json LoadM

/-! ## §1. Loader steps -/

namespace Loader

variable {l : Loader}

/-- The parts of a loader its tidiness reads: the declarations, the prelude
option and the metadata; and the trait factory, which no step changes. -/
structure SameDecls (l l' : Loader) : Prop where
  shapes : l'.shapes = l.shapes
  includePrelude : l'.includePrelude = l.includePrelude
  metadata : l'.metadata = l.metadata
  factory : l'.factory = l.factory

/-- A step that leaves the declarations and the prelude option, and keeps the
metadata in key order, keeps a loader tidy. -/
theorem Tidy.of_frame (hl : l.Tidy) {l' : Loader} (hs : l'.shapes = l.shapes)
    (hp : l'.includePrelude = l.includePrelude) (hm : Keyed.Sorted compare Prod.fst l'.metadata) :
    l'.Tidy where
  decls := hs ▸ hl.decls
  not_prelude e he := hp ▸ hl.not_prelude e (hs ▸ he)
  metadata_sorted := hm

theorem Tidy.onTrait (hl : l.Tidy) (target : ShapeId) (name : ShapeReference) (value : Node)
    (source : SourceLocation) : (l.onTrait target name value source).Tidy :=
  hl.of_frame rfl rfl hl.metadata_sorted

theorem Tidy.onError (hl : l.Tidy) (e : Event) : (l.onError e).Tidy :=
  hl.of_frame rfl rfl hl.metadata_sorted

theorem Tidy.openFile (hl : l.Tidy) (name : String) : (l.openFile name).Tidy :=
  hl.of_frame rfl rfl hl.metadata_sorted

theorem Tidy.onMetadata (hl : l.Tidy) (key : String) (value : Node) (source : SourceLocation) :
    (l.onMetadata key value source).Tidy := by
  refine hl.of_frame ?_ ?_ (onMetadata_sorted hl.metadata_sorted key value source)
  all_goals
    unfold Loader.onMetadata
    split
    · rfl
    · split
      · rfl
      · split <;> rfl

theorem Tidy.of_sameDecls (hl : l.Tidy) {l' : Loader} (h : l.SameDecls l') : l'.Tidy :=
  hl.of_frame h.shapes h.includePrelude (h.metadata ▸ hl.metadata_sorted)

theorem onVersion_eq_ok {version : String} {l' : Loader} (h : l.onVersion version = .ok l') :
    l' = l ∨ l' = { l with version := some version } := by
  unfold onVersion at h
  simp only [bind, Except.bind, pure, Except.pure, throw, throwThe, MonadExceptOf.throw] at h
  -- every way out either fails, keeps the loader, or sets the version
  repeat' split at h
  all_goals cases h
  all_goals first | exact .inl rfl | exact .inr rfl

theorem onVersion_sameDecls {version : String} {l' : Loader} (h : l.onVersion version = .ok l') :
    l.SameDecls l' := by
  rcases onVersion_eq_ok h with rfl | rfl <;> exact ⟨rfl, rfl, rfl, rfl⟩

theorem onUse_sameDecls {id : ShapeId} {l' : Loader} (h : l.onUse id = .ok l') : l.SameDecls l' := by
  unfold onUse at h
  repeat' split at h
  all_goals cases h
  all_goals exact ⟨rfl, rfl, rfl, rfl⟩

theorem onNamespace_sameDecls {ns : String} {l' : Loader} (h : l.onNamespace ns = .ok l') :
    l.SameDecls l' := by
  unfold onNamespace at h
  split at h
  all_goals cases h
  exact ⟨rfl, rfl, rfl, rfl⟩

/-- Declaring a shape either leaves the declarations, the prelude option and
the metadata as they were (a shape without an ID, one the prelude gives, one
repeating the place of the first), or adds it to the declarations under its ID,
which the prelude does not give. -/
theorem onShape_sameDecls_or_put (l : Loader) (p : PendingShape) :
    l.SameDecls (l.onShape p) ∨ ∃ id, p.id = some id ∧ ¬(l.includePrelude = true ∧ isPreludeShape id = true) ∧
      l.onShape p = { l with shapes := putById l.shapes id ((l.shapes.lookup id).getD [] ++ [p]) } := by
  unfold Loader.onShape
  split
  · exact .inl ⟨rfl, rfl, rfl, rfl⟩
  · next id hid =>
    split
    · exact .inl ⟨rfl, rfl, rfl, rfl⟩
    · next hpre =>
      dsimp only
      split <;> split
      all_goals first | exact .inl ⟨rfl, rfl, rfl, rfl⟩ | exact .inr ⟨id, hid, by simpa using hpre, rfl⟩

/-- A property of every key stays a property of every key after a put under a
key that has it. -/
theorem putById_keys {α : Type} {P : ShapeId → Prop} {shapes : List (ShapeId × α)}
    (h : ∀ e ∈ shapes, P e.1) {id : ShapeId} (hid : P id) (v : α) : ∀ e ∈ putById shapes id v, P e.1 := by
  intro e he
  rw [putById_eq] at he
  rcases Keyed.mem_put he with rfl | he
  · exact hid
  · exact h e he

/-- A property of every declaration under its key stays one after a
declaration that has it joins those under its ID. -/
theorem putById_entries {Q : ShapeId → PendingShape → Prop} {shapes : List (ShapeId × List PendingShape)}
    (h : ∀ e ∈ shapes, ∀ q ∈ e.2, Q e.1 q) {id : ShapeId} {p : PendingShape} (hp : Q id p) :
    ∀ e ∈ putById shapes id ((shapes.lookup id).getD [] ++ [p]), ∀ q ∈ e.2, Q e.1 q := by
  intro e he q hq
  rw [putById_eq] at he
  rcases Keyed.mem_put he with rfl | he
  · rcases List.mem_append.mp hq with hq | hq
    · -- an earlier declaration under the ID
      cases hlook : shapes.lookup id with
      | none => simp [hlook] at hq
      | some es =>
        rw [hlook, Option.getD_some] at hq
        exact h _ (mem_of_lookup_eq_some hlook) q hq
    · rw [List.mem_singleton.mp hq]
      exact hp
  · exact h e he q hq

/-- Declaring a shape that is tidy under its ID keeps a loader tidy. -/
theorem Tidy.onShape (hl : l.Tidy) {p : PendingShape} (hp : ∀ id, p.id = some id → p.Tidy id) :
    (l.onShape p).Tidy := by
  rcases onShape_sameDecls_or_put l p with h | ⟨id, hid, hpre, heq⟩
  · exact hl.of_sameDecls h
  · rw [heq]
    refine ⟨⟨?_, putById_entries (Q := fun k q => q.Tidy k) hl.decls.entries (hp id hid)⟩, putById_keys (P := fun k => ¬(l.includePrelude = true ∧ isPreludeShape k = true)) hl.not_prelude hpre _,
      hl.metadata_sorted⟩
    rw [putById_eq]
    exact hl.decls.sorted.put _

/-- What a load does to a loader besides reading it: declare shapes with fresh
builders under their IDs, put metadata, and change nothing else a declaration
invariant reads (trait applications, the file, the namespace, aliases and the
version). An invariant kept by these steps is kept by every load
(`LoadInvariant.load`). -/
structure LoadInvariant (P : Loader → Prop) : Prop where
  frame : ∀ {l l' : Loader}, P l → l.SameDecls l' → P l'
  onMetadata : ∀ {l : Loader}, P l → ∀ key value source, P (l.onMetadata key value source)
  onShape : ∀ {l : Loader} {p : PendingShape} {id : ShapeId}, P l → p.id = some id → p.Tidy id →
    P (l.onShape p)

theorem LoadInvariant.onTrait {P : Loader → Prop} (hP : LoadInvariant P) (hl : P l) (target : ShapeId)
    (name : ShapeReference) (value : Node) (source : SourceLocation) : P (l.onTrait target name value source) :=
  hP.frame hl ⟨rfl, rfl, rfl, rfl⟩

theorem LoadInvariant.openFile {P : Loader → Prop} (hP : LoadInvariant P) (hl : P l) (name : String) :
    P (l.openFile name) :=
  hP.frame hl ⟨rfl, rfl, rfl, rfl⟩

/-- Tidiness is such an invariant. -/
theorem tidy_loadInvariant : LoadInvariant Loader.Tidy where
  frame hl h := hl.of_sameDecls h
  onMetadata hl := hl.onMetadata
  onShape hl hid hp := hl.onShape fun _ hid' => (Option.some.inj (hid'.symm.trans hid)) ▸ hp

end Loader

/-! ## §2. Reading steps -/

namespace LoadM

variable {P : Loader → Prop}

theorem Keeps.objectOf_eq {n : Node} {what : String} :
    Keeps P (fun es => n = .obj es) (ShapeKit.objectOf n what) := by
  unfold ShapeKit.objectOf
  split
  · exact Keeps.pure rfl
  · exact Keeps.malformed

/-- A read that stops malformed keeps every invariant, whatever would follow it. -/
theorem Keeps.malformed_bind {α β : Type} {R : β → Prop} {m : String} {f : α → LoadM β} :
    Keeps P R (ShapeKit.malformed m >>= f) :=
  Keeps.bind (Q := fun _ => False) Keeps.malformed fun _ h => h.elim

theorem keeps_applyTraits (hP : Loader.LoadInvariant P) (target : ShapeId) (traits : Option Node)
    (source : SourceLocation) :
    Keeps P (fun _ => True) (applyTraits target traits source) := by
  unfold applyTraits
  split
  · refine Keeps.bind Keeps.objectOf fun es _ => Keeps.bind (Keeps.forIn fun x _ _ => ?_) fun _ _ => Keeps.pure trivial
    obtain ⟨name, value⟩ := x
    exact Keeps.bind (Keeps.ask fun _ _ _ _ => trivial) fun r _ =>
      Keeps.bind (Keeps.modify fun l hl => hP.onTrait hl _ _ _ _) fun _ _ => Keeps.pure trivial
  · exact Keeps.pure trivial

/-! Reading references asks the loader and changes nothing. -/

theorem keeps_targetOf (n : Node) : Keeps P (fun _ => True) (targetOf n) := by
  unfold targetOf
  split
  · exact Keeps.ask fun _ _ _ _ => trivial
  · exact Keeps.malformed

theorem keeps_targetsOf (n : Option Node) (what : String) : Keeps P (fun _ => True) (targetsOf n what) := by
  unfold targetsOf
  split
  · exact Keeps.pure trivial
  · exact Keeps.bind Keeps.arrayOf fun xs _ =>
      (Keeps.mapM fun x _ => keeps_targetOf (P := P) x).mono fun _ _ => trivial

theorem keeps_shapeRefs (t : ShapeType) (es : List (String × Node)) :
    Keeps P (fun _ => True) (shapeRefs t es) := by
  unfold shapeRefs
  dsimp only
  -- each part is a chain of binds of reading steps, split by the properties present
  repeat' first
    | with_reducible refine Keeps.bind (Q := fun _ => True) ?_ fun _ _ => ?_
    | with_reducible exact Keeps.pure trivial
    | with_reducible exact Keeps.pure (by simp)
    | with_reducible exact keeps_targetOf _
    | with_reducible exact keeps_targetsOf _ _
    | with_reducible exact Keeps.objectOf
    | with_reducible refine (Keeps.mapM (R := fun _ => True) fun _ _ => ?_).mono fun _ _ => trivial
    | with_reducible refine (Keeps.filterMapM (R := fun _ => True) fun _ _ => ?_).mono fun _ _ => trivial
    | split

end LoadM

/-- A member builder as a load makes it: fresh, under the ID of the member of
the container with the name. -/
def PendingMember.Fresh (container : ShapeId) (name : String) (m : PendingMember) : Prop :=
  ∃ id source, container.withMember name = .ok id ∧
    m.builder = ((Builder.new .member).setId id).setSource source

namespace LoadM

theorem keeps_loadMember (hP : Loader.LoadInvariant P) (loc : Locator) (container : ShapeId) (name : String)
    (definition : Node) (offset : Nat) :
    Keeps P (PendingMember.Fresh container name) (loadMember loc container name definition offset) := by
  unfold loadMember
  refine Keeps.bind (Q := fun id => container.withMember name = .ok id) (Keeps.ask fun l id _ h => ?_)
    fun id hid => ?_
  · cases hw : container.withMember name <;> simp_all [Except.mapError]
  refine Keeps.bind Keeps.objectOf fun es _ => ?_
  obtain ⟨source, _⟩ := loc.key name offset
  exact Keeps.bind (keeps_targetOf _) fun r _ => Keeps.bind (keeps_applyTraits hP _ _ _) fun _ _ =>
    Keeps.pure ⟨id, source, hid, rfl⟩

/-- Every result of a `mapM` is related to its item as every round's result is. -/
theorem Keeps.mapM_forall₂ {α β : Type} {xs : List α} {f : α → LoadM β} {R : α → β → Prop}
    (hf : ∀ x ∈ xs, Keeps P (R x) (f x)) : Keeps P (fun ys => List.Forall₂ R xs ys) (xs.mapM f) := by
  induction xs with
  | nil => exact Keeps.pure List.Forall₂.nil
  | cons x xs ih =>
    rw [List.mapM_cons]
    refine Keeps.bind (hf x List.mem_cons_self) fun y hy => ?_
    exact Keeps.bind (ih fun z hz => hf z (List.mem_cons_of_mem _ hz)) fun ys hys =>
      Keeps.pure (List.Forall₂.cons hy hys)

theorem Keeps.requiredMember (es : List (String × Node)) (name what : String) :
    Keeps P (fun n => Node.lookup name es = some n) (requiredMember es name what) := by
  unfold ShapeKit.requiredMember
  split
  · next n hn => exact Keeps.pure hn
  · exact Keeps.malformed

end LoadM

namespace Json

theorem Node.lookup_mem {k : String} {es : List (String × Node)} {n : Node} (h : Node.lookup k es = some n) :
    ∃ e ∈ es, e.2 = n := by
  induction es with
  | nil => cases h
  | cons e rest ih =>
    obtain ⟨k', v⟩ := e
    unfold Node.lookup at h
    split at h
    · exact ⟨(k', v), List.mem_cons_self, Option.some.inj h⟩
    · obtain ⟨e, he, hn⟩ := ih h
      exact ⟨e, List.mem_cons_of_mem _ he, hn⟩

/-- The keys of an object with distinct keys, and the values it holds. -/
theorem Node.KeysDistinct.obj_keys {es : List (String × Node)} (h : (Node.obj es).KeysDistinct) :
    (es.map Prod.fst).Nodup := by
  cases h with
  | obj keys _ => exact keys

theorem Node.KeysDistinct.obj_values {es : List (String × Node)} (h : (Node.obj es).KeysDistinct) :
    ∀ e ∈ es, e.2.KeysDistinct := by
  cases h with
  | obj _ values => exact values

theorem Node.KeysDistinct.lookup {es : List (String × Node)} (h : (Node.obj es).KeysDistinct)
    {k : String} {n : Node} (hk : Node.lookup k es = some n) : n.KeysDistinct := by
  obtain ⟨e, he, rfl⟩ := Node.lookup_mem hk
  exact h.obj_values e he

end Json

theorem ShapeId.withMember_eq_ok {id x : ShapeId} {name : String} (h : id.withMember name = .ok x) :
    x = { id with member := some name } := by
  unfold ShapeId.withMember at h
  split at h
  · exact (Except.ok.inj h).symm
  · cases h

/-- Fresh member builders under distinct names make, with a fresh builder of a
shape ID, a tidy declaration. -/
theorem PendingShape.tidy_of_fresh {b : Builder} {id : ShapeId} (hid : b.id = some id)
    (hnm : id.isMember = false) (htraits : b.traits = []) (hmembers : b.members = [])
    {names : List String} (hnames : names.Nodup) {ms : List PendingMember}
    (hms : List.Forall₂ (PendingMember.Fresh id) names ms) (refs : List (ShapeReference × Binding)) :
    ({ builder := b, refs, members := ms } : PendingShape).Tidy id := by
  -- each member's builder is a fresh one under the member of `id` with its name
  have hfresh : ∀ m ∈ ms, ∃ (n : String) (source : SourceLocation),
      m.builder = ((Builder.new .member).setId { id with member := some n }).setSource source := by
    clear hnames
    induction hms with
    | nil => simp
    | cons hm _ ih =>
      obtain ⟨x, source, hx, hb⟩ := hm
      intro m hm'
      rcases List.mem_cons.mp hm' with rfl | hm'
      · exact ⟨_, source, ShapeId.withMember_eq_ok hx ▸ hb⟩
      · exact ih m hm'
  have hids : ms.map (·.builder.id) = names.map fun n => some { id with member := some n } := by
    clear hfresh hnames
    induction hms with
    | nil => rfl
    | cons hm _ ih =>
      obtain ⟨x, source, hx, hb⟩ := hm
      simp [hb, ShapeId.withMember_eq_ok hx, ih, Builder.setSource, Builder.setId]
  refine ⟨hid, hnm, htraits, hmembers, fun m hm => ?_, ?_, fun m hm => ?_, fun m hm => ?_⟩
  · obtain ⟨n, source, hb⟩ := hfresh m hm
    refine ⟨{ id with member := some n }, by simp [hb, Builder.setSource, Builder.setId], rfl, ?_⟩
    exact ShapeId.withoutMember_eq_self hnm
  · rw [hids]
    exact hnames.map fun a b h => by simpa using h
  · obtain ⟨n, source, hb⟩ := hfresh m hm
    simp [hb, Builder.setSource, Builder.setId, Builder.new]
  · obtain ⟨n, source, hb⟩ := hfresh m hm
    simp [hb, Builder.setSource, Builder.setId, Builder.new]

namespace LoadM

/-- The members a load reads are fresh builders under distinct names. -/
theorem keeps_shapeMembers (hP : Loader.LoadInvariant P) (loc : Locator) (id : ShapeId) (t : ShapeType)
    {es : List (String × Node)}
    (hes : (Node.obj es).KeysDistinct) (what : String) (offset : Nat) :
    Keeps P (fun ms => ∃ names : List String, names.Nodup ∧ List.Forall₂ (PendingMember.Fresh id) names ms)
      (shapeMembers loc id t es what offset) := by
  unfold shapeMembers
  split
  case h_1 | h_2 =>
    -- a list or a set: one member, `member`
    exact Keeps.bind (Keeps.requiredMember _ _ _) fun n _ => Keeps.bind (keeps_loadMember hP _ _ _ _ _)
      fun m hm => Keeps.pure ⟨["member"], List.nodup_singleton _, .cons hm .nil⟩
  case h_3 =>
    -- a map: `key`, then `value`
    exact Keeps.bind (Keeps.requiredMember _ _ _) fun _ _ => Keeps.bind (keeps_loadMember hP _ _ _ _ _)
      fun k hk => Keeps.bind (Keeps.requiredMember _ _ _) fun _ _ => Keeps.bind (keeps_loadMember hP _ _ _ _ _)
      fun v hv => Keeps.pure ⟨["key", "value"], by simp, .cons hk (.cons hv .nil)⟩
  case h_4 | h_5 =>
    -- a structure or a union: one member per key of `members`, which are distinct
    split
    · next n hn =>
      refine Keeps.bind Keeps.objectOf_eq fun ms hms => ?_
      have hobj : (Node.obj ms).KeysDistinct := hms ▸ hes.lookup hn
      have hkeys : (ms.map Prod.fst).Nodup := hobj.obj_keys
      refine (Keeps.mapM_forall₂ (R := fun e m => PendingMember.Fresh id e.1 m) fun e _ => ?_).mono
        fun _ hfresh => ⟨ms.map Prod.fst, hkeys, List.forall₂_map_left_iff.mpr hfresh⟩
      obtain ⟨name, d⟩ := e
      exact keeps_loadMember hP loc id name d offset
    · exact Keeps.pure ⟨[], List.nodup_nil, .nil⟩
  case h_6 => exact Keeps.pure ⟨[], List.nodup_nil, .nil⟩

/-- The end of a shape's load: its members, references and traits are read, and
the shape is declared with its fresh builder. -/
theorem keeps_declare (hP : Loader.LoadInvariant P) (loc : Locator) {id : ShapeId} (hid : id.isMember = false)
    (t : ShapeType) {es : List (String × Node)} (hes : (Node.obj es).KeysDistinct) {b : Builder} (hbid : b.id = some id)
    (htraits : b.traits = []) (hmembers : b.members = []) (what : String) (source : SourceLocation)
    (offset : Nat) :
    Keeps P (fun _ => True) (do
      let members ← shapeMembers loc id t es what offset
      let refs ← shapeRefs t es
      applyTraits id (Node.lookup "traits" es) source
      modify fun l => l.onShape { builder := b, refs, members }) := by
  refine Keeps.bind (keeps_shapeMembers hP loc id t hes what offset) fun ms ⟨names, hnames, hms⟩ => ?_
  refine Keeps.bind (keeps_shapeRefs t es) fun refs _ => Keeps.bind (keeps_applyTraits hP _ _ _) fun _ _ => ?_
  refine Keeps.modify fun l hl => hP.onShape hl hbid ?_
  exact PendingShape.tidy_of_fresh hbid hid htraits hmembers hnames hms refs

theorem keeps_loadShape (hP : Loader.LoadInvariant P) (loc : Locator) (key : String) {definition : Node}
    (hd : definition.KeysDistinct) : Keeps P (fun _ => True) (loadShape loc key definition) := by
  unfold loadShape
  dsimp only
  refine Keeps.bind (Keeps.ask (Q := fun _ => True) fun _ _ _ _ => trivial) fun id _ => ?_
  -- a member ID as the key stops the load
  by_cases hid : id.isMember = true
  · rw [if_pos hid]
    exact Keeps.malformed_bind
  rw [if_neg hid]
  refine Keeps.bind (Keeps.step fun l l' hl h => hP.frame hl (Loader.onNamespace_sameDecls h)) fun _ _ => ?_
  refine Keeps.bind Keeps.objectOf_eq fun es hdef => ?_
  have hes : (Node.obj es).KeysDistinct := hdef ▸ hd
  split
  · split
    · -- `apply` adds traits and declares nothing
      exact Keeps.bind (keeps_applyTraits hP _ _ _) fun _ _ => Keeps.pure trivial
    · split
      · refine Keeps.bind (Keeps.pure (Q := fun _ => True) trivial) fun t _ => ?_
        have hnm : id.isMember = false := by simpa using hid
        split
        · -- a member type stops the load
          exact Keeps.malformed_bind
        · -- a service takes its `version`, when it has one
          split
          · split
            · split
              · exact keeps_declare hP loc hnm t hes rfl rfl rfl _ _ _
              · exact Keeps.malformed_bind
            · exact keeps_declare hP loc hnm t hes rfl rfl rfl _ _ _
          · exact keeps_declare hP loc hnm t hes rfl rfl rfl _ _ _
      · exact Keeps.malformed
  · exact Keeps.malformed

theorem keeps_loadDocument (hP : Loader.LoadInvariant P) (filename contents : String) :
    Keeps P (fun _ => True) (loadDocument filename contents) := by
  unfold loadDocument
  extract_lets loc finish
  -- the load past reading the text, for a root with distinct keys
  have hfinish : ∀ root, root.KeysDistinct → Keeps P (fun _ => True) (finish root) := by
    intro root hroot
    simp -zeta only [finish]
    refine Keeps.bind (Keeps.modify fun l hl => hP.openFile hl _) fun _ _ => ?_
    refine Keeps.bind Keeps.objectOf_eq fun es hes => ?_
    have hdoc : (Node.obj es).KeysDistinct := hes ▸ hroot
    -- the parts after the version, from the last one read to the first
    extract_lets declareAll putMetadata useAll
    have hshapes : ∀ u, Keeps P (fun _ => True) (declareAll u) := by
      intro u
      simp -zeta only [declareAll]
      split
      · next shapes hs =>
        refine Keeps.bind Keeps.objectOf_eq fun ds hds => ?_
        have hd : (Node.obj ds).KeysDistinct := hds ▸ hdoc.lookup hs
        refine Keeps.bind (Keeps.forIn fun x hx _ => ?_) fun _ _ => Keeps.pure trivial
        exact Keeps.bind (keeps_loadShape hP loc x.1 (hd.obj_values x hx)) fun _ _ => Keeps.pure trivial
      · exact Keeps.pure trivial
    have hmetadata : ∀ u, Keeps P (fun _ => True) (putMetadata u) := by
      intro u
      simp -zeta only [putMetadata]
      split
      · refine Keeps.bind Keeps.objectOf fun _ _ =>
          Keeps.bind (Keeps.forIn fun _ _ _ => ?_) fun _ _ => hshapes ()
        exact Keeps.bind (Keeps.modify fun l hl => hP.onMetadata hl _ _ _) fun _ _ => Keeps.pure trivial
      · exact hshapes ()
    have huses : ∀ u, Keeps P (fun _ => True) (useAll u) := by
      intro u
      simp -zeta only [useAll]
      split
      · refine Keeps.bind Keeps.arrayOf fun _ _ =>
          Keeps.bind (Keeps.forIn fun _ _ _ => ?_) fun _ _ => hmetadata ()
        split
        · exact Keeps.bind (Keeps.ask (Q := fun _ => True) fun _ _ _ _ => trivial) fun _ _ =>
            Keeps.bind (Keeps.step fun l l' hl h => hP.frame hl (Loader.onUse_sameDecls h))
              fun _ _ => Keeps.pure trivial
        · exact Keeps.malformed_bind
      · exact hmetadata ()
    split
    · exact Keeps.bind (Keeps.step fun l l' hl h => hP.frame hl (Loader.onVersion_sameDecls h))
        fun u _ => huses u
    · exact Keeps.malformed_bind
    · exact Keeps.bind (Keeps.step fun l l' hl h => hP.frame hl (Loader.onVersion_sameDecls h))
        fun u _ => huses u
  split
  · next n hn => exact Keeps.bind (Keeps.pure (read_keysDistinct hn)) hfinish
  · exact Keeps.bind (Q := fun _ => False) Keeps.throw fun _ h => h.elim

end LoadM

/-! ## §3. Runs of loads -/

namespace Loader

/-- Documents loaded one after another, each from the loader the one before
left, whether or not its load stopped early. -/
def loadAll (l : Loader) (docs : List (String × String)) : Loader :=
  docs.foldl (fun l d => (l.load d.1 d.2).1) l

theorem load_fst (l : Loader) (filename contents : String) :
    (l.load filename contents).1 = ((loadDocument filename contents).run.run l).2 := by
  unfold Loader.load
  split <;> next h => rw [h]

/-- A load keeps every load invariant, also when it stops at a malformed part. -/
theorem LoadInvariant.load {P : Loader → Prop} (hP : LoadInvariant P) {l : Loader} (hl : P l)
    (filename contents : String) : P (l.load filename contents).1 :=
  load_fst l filename contents ▸ (keeps_loadDocument hP filename contents l hl).1

theorem LoadInvariant.loadAll {P : Loader → Prop} (hP : LoadInvariant P) {l : Loader} (hl : P l)
    (docs : List (String × String)) : P (l.loadAll docs) := by
  induction docs generalizing l with
  | nil => exact hl
  | cons d rest ih => exact ih (hP.load hl d.1 d.2)

/-- A load keeps a loader tidy, also when it stops at a malformed part. -/
theorem Tidy.load {l : Loader} (hl : l.Tidy) (filename contents : String) :
    (l.load filename contents).1.Tidy :=
  tidy_loadInvariant.load hl filename contents

/-- A loader with no declarations and no metadata is tidy. -/
theorem Tidy.of_empty {l : Loader} (hs : l.shapes = []) (hm : l.metadata = []) : l.Tidy where
  decls := hs ▸ ⟨List.Pairwise.nil, fun _ h => by cases h⟩
  not_prelude _ h := by rw [hs] at h; cases h
  metadata_sorted := hm ▸ List.Pairwise.nil

/-- **Every run of loads keeps a loader tidy.** -/
theorem Tidy.loadAll {l : Loader} (hl : l.Tidy) (docs : List (String × String)) : (l.loadAll docs).Tidy :=
  tidy_loadInvariant.loadAll hl docs

end Loader

end ShapeKit
