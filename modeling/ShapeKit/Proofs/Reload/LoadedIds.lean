import ShapeKit.Proofs.TidyLoads
import ShapeKit.Proofs.IdText

/-!
# Loads keep every ID valid

Every ID a load reads is one that reads back from its text (`ShapeId.Valid`):
an absolute ID parses, an alias was parsed, and a relative name is put into
the current namespace, which parsed. This module carries that through the
loader:

  * §1: a loader whose IDs are valid (`Loader.IdsValid`), and the form a load
    gives a declaration before its references are resolved
    (`PendingShape.IdsValid`);
  * §2: a reference a loader reads is valid (`Loader.reference_valid`);
  * §3: each step of the loader keeps its IDs valid;
  * §4: so does each reading step, and so every run of loads into a fresh
    loader (`Loader.IdsValid.loadAll`).
-/

namespace ShapeKit

open Json LoadM

/-! ## §1. Valid IDs in a loader -/

/-- A reference whose ID, as written, is valid. -/
def ShapeReference.Valid : ShapeReference → Prop
  | .resolved id => id.Valid
  | .deferred e => e.Valid

/-- A builder with no reference set yet: no target, and no operation, resource
or service reference. -/
structure Builder.Unbound (b : Builder) : Prop where
  target : b.target = none
  operation : b.operation = {}
  resource : b.resource = {}
  serviceOperations : b.service.operations = []
  serviceResources : b.service.resources = []

/-- A member declaration as a load makes it: a valid ID, no reference set yet
and valid references to set. -/
structure PendingMember.IdsValid (m : PendingMember) : Prop where
  id : ∀ id ∈ m.builder.id, id.Valid
  unbound : m.builder.Unbound
  refs : ∀ r ∈ m.refs, r.1.Valid

/-- A declaration as a load makes it: a valid ID, no reference set yet, valid
references to set, and members of the same kind. -/
structure PendingShape.IdsValid (p : PendingShape) : Prop where
  id : ∀ id ∈ p.builder.id, id.Valid
  unbound : p.builder.Unbound
  refs : ∀ r ∈ p.refs, r.1.Valid
  members : ∀ m ∈ p.members, m.IdsValid

/-- Every ID a loader holds is valid: its aliases, its declarations' and the
targets and names of its trait applications. -/
structure Loader.IdsValid (l : Loader) : Prop where
  aliases : ∀ a ∈ l.aliases, a.2.Valid
  decls : ∀ e ∈ l.shapes, ∀ p ∈ e.2, p.IdsValid
  traits : ∀ q ∈ l.traits, q.target.Valid ∧ q.name.Valid

/-! ## §2. Reading IDs -/

namespace Loader

variable {l : Loader}

theorem parseId_valid {text : String} {id : ShapeId} (h : l.parseId text = .ok id) : id.Valid := by
  unfold parseId at h
  cases hp : ShapeId.parse text with
  | error e => simp [hp, Except.mapError] at h
  | ok id' =>
    simp only [hp, Except.mapError, Except.ok.injEq] at h
    exact h ▸ ShapeId.valid_of_parse hp

theorem mapError_eq_ok {ε ε' α : Type} {f : ε → ε'} {x : Except ε α} {a : α} (h : x.mapError f = .ok a) :
    x = .ok a := by
  cases x <;> simp_all [Except.mapError]

/-- **A reference a loader reads is valid** when its aliases are: an absolute
ID parses, an alias (or a member of one) was parsed, and a relative name is put
in the current namespace. -/
theorem reference_valid (hl : ∀ a ∈ l.aliases, a.2.Valid) {text : String} {r : ShapeReference}
    (h : l.reference text = .ok r) : r.Valid := by
  unfold reference at h
  by_cases hhash : text.toList.contains '#'
  · simp only [hhash, if_true, bind, Except.bind, pure, Except.pure] at h
    split at h
    · cases h
    · next id hid =>
      cases h
      exact parseId_valid hid
  · simp only [hhash, Bool.false_eq_true, if_false, bind, Except.bind, pure, Except.pure] at h
    split at h
    · next imported himp =>
      -- an alias is a parsed ID
      have himported : imported.Valid := by
        obtain ⟨l₁, l₂, hsplit, -⟩ := List.lookup_eq_some_iff.mp himp
        exact hl _ (by rw [hsplit]; exact List.mem_append_right _ List.mem_cons_self)
      split at h
      · split at h
        · cases h
        · next id hid =>
          cases h
          exact ShapeId.valid_withMember himported (mapError_eq_ok hid)
      · cases h
        exact himported
    · split at h
      · cases h
      · split at h
        · cases h
        · next id hid =>
          cases h
          exact ShapeId.valid_ofRelative (mapError_eq_ok hid)

/-! ## §3. Loader steps -/

namespace IdsValid

/-- A step that leaves the aliases, declarations and trait applications keeps
every ID valid. -/
theorem of_frame (hl : l.IdsValid) {l' : Loader} (ha : l'.aliases = l.aliases) (hs : l'.shapes = l.shapes)
    (ht : l'.traits = l.traits) : l'.IdsValid :=
  ⟨ha ▸ hl.aliases, hs ▸ hl.decls, ht ▸ hl.traits⟩

theorem openFile (hl : l.IdsValid) (name : String) : (l.openFile name).IdsValid :=
  ⟨by simp [Loader.openFile], hl.decls, hl.traits⟩

theorem onError (hl : l.IdsValid) (e : Event) : (l.onError e).IdsValid := hl.of_frame rfl rfl rfl

theorem onVersion (hl : l.IdsValid) {version : String} {l' : Loader} (h : l.onVersion version = .ok l') :
    l'.IdsValid := by
  rcases onVersion_eq_ok h with rfl | rfl
  · exact hl
  · exact hl.of_frame rfl rfl rfl

theorem onNamespace (hl : l.IdsValid) {ns : String} {l' : Loader} (h : l.onNamespace ns = .ok l') :
    l'.IdsValid := by
  unfold Loader.onNamespace at h
  split at h
  · cases h
    exact hl.of_frame rfl rfl rfl
  · cases h

/-- Importing a valid ID keeps every alias valid. -/
theorem onUse (hl : l.IdsValid) {id : ShapeId} (hid : id.Valid) {l' : Loader} (h : l.onUse id = .ok l') :
    l'.IdsValid := by
  have hput : ∀ a ∈ putByKey l.aliases id.name id, a.2.Valid := fun a ha => by
    rw [putByKey_eq] at ha
    rcases Keyed.mem_put ha with rfl | ha
    · exact hid
    · exact hl.aliases a ha
  unfold Loader.onUse at h
  repeat' split at h
  all_goals cases h
  all_goals exact ⟨hput, hl.decls, hl.traits⟩

theorem onMetadata (hl : l.IdsValid) (key : String) (value : Node) (source : SourceLocation) :
    (l.onMetadata key value source).IdsValid := by
  unfold Loader.onMetadata
  split
  · exact hl.of_frame rfl rfl rfl
  · split
    · exact hl
    · split
      · exact hl.of_frame rfl rfl rfl
      · exact hl
      · exact hl.onError _

/-- A trait applied to a valid ID under a valid name keeps every ID valid. -/
theorem onTrait (hl : l.IdsValid) {target : ShapeId} (ht : target.Valid) {name : ShapeReference}
    (hn : name.Valid) (value : Node) (source : SourceLocation) : (l.onTrait target name value source).IdsValid := by
  refine ⟨hl.aliases, hl.decls, fun q hq => ?_⟩
  rcases List.mem_append.mp hq with hq | hq
  · exact hl.traits q hq
  · rw [List.mem_singleton.mp hq]
    exact ⟨ht, hn⟩

/-- Declaring a shape whose IDs are valid keeps every ID valid. -/
theorem onShape (hl : l.IdsValid) {p : PendingShape} (hp : p.IdsValid) : (l.onShape p).IdsValid := by
  have hframe : (l.onShape p).aliases = l.aliases ∧ (l.onShape p).traits = l.traits := by
    unfold Loader.onShape
    split
    · exact ⟨rfl, rfl⟩
    · split
      · exact ⟨rfl, rfl⟩
      · dsimp only
        split <;> split <;> exact ⟨rfl, rfl⟩
  rcases onShape_sameDecls_or_put l p with h | ⟨id, -, -, heq⟩
  · exact hl.of_frame hframe.1 h.shapes hframe.2
  · refine ⟨hframe.1 ▸ hl.aliases, ?_, hframe.2 ▸ hl.traits⟩
    rw [heq]
    exact putById_entries (Q := fun _ q => q.IdsValid) hl.decls hp

end IdsValid

end Loader

/-! ## §4. Reading steps -/

namespace LoadM

theorem keeps_reference_valid (text : String) :
    Keeps Loader.IdsValid ShapeReference.Valid (ask (·.reference text)) :=
  Keeps.ask fun _ _ hl h => Loader.reference_valid hl.aliases h

theorem keeps_targetOf_valid (n : Node) : Keeps Loader.IdsValid ShapeReference.Valid (targetOf n) := by
  unfold targetOf
  split
  · exact keeps_reference_valid _
  · exact Keeps.malformed

theorem keeps_targetsOf_valid (n : Option Node) (what : String) :
    Keeps Loader.IdsValid (fun rs => ∀ r ∈ rs, r.Valid) (targetsOf n what) := by
  unfold targetsOf
  split
  · exact Keeps.pure (by simp)
  · exact Keeps.bind Keeps.arrayOf fun xs _ => Keeps.mapM fun x _ => keeps_targetOf_valid x

/-- A reference read from an optional property, bound one way, and the step
that takes it on. -/
theorem keeps_bindTarget_valid (n : Node) (b : Binding) {β : Type} {R : β → Prop}
    {k : List (ShapeReference × Binding) → LoadM β} (hk : ∀ xs, (∀ r ∈ xs, r.1.Valid) → Keeps Loader.IdsValid R (k xs)) :
    Keeps Loader.IdsValid R (do let r ← targetOf n; let xs ← pure [(r, b)]; k xs) :=
  Keeps.bind (keeps_targetOf_valid n) fun r hr => Keeps.bind (Keeps.pure (Q := fun xs => ∀ r ∈ xs, r.1.Valid)
    (by simpa using hr)) hk

/-- No reference, and the step that takes it on. -/
theorem keeps_bindNone_valid {β : Type} {R : β → Prop}
    {k : List (ShapeReference × Binding) → LoadM β} (hk : ∀ xs, (∀ r ∈ xs, r.1.Valid) → Keeps Loader.IdsValid R (k xs)) :
    Keeps Loader.IdsValid R (do let xs ← pure []; k xs) :=
  Keeps.bind (Keeps.pure (Q := fun xs => ∀ r ∈ xs, r.1.Valid) (by simp)) hk

theorem refsValid_append {xs ys : List (ShapeReference × Binding)} (hx : ∀ r ∈ xs, r.1.Valid)
    (hy : ∀ r ∈ ys, r.1.Valid) : ∀ r ∈ xs ++ ys, r.1.Valid :=
  fun r hr => (List.mem_append.mp hr).elim (hx r) (hy r)

theorem refsValid_map {rs : List ShapeReference} (h : ∀ r ∈ rs, r.Valid) (b : Binding) :
    ∀ r ∈ rs.map (·, b), r.1.Valid := by
  simpa using h

theorem keeps_shapeRefs_valid (t : ShapeType) (es : List (String × Node)) :
    Keeps Loader.IdsValid (fun refs => ∀ r ∈ refs, r.1.Valid) (shapeRefs t es) := by
  unfold shapeRefs
  split
  · -- an operation: its input, output and errors
    extract_lets afterInput
    have hinput : ∀ input, (∀ r ∈ input, r.1.Valid) →
        Keeps Loader.IdsValid (fun refs => ∀ r ∈ refs, r.1.Valid) (afterInput input) := by
      intro input hin
      simp -zeta only [afterInput]
      extract_lets afterOutput
      have houtput : ∀ output, (∀ r ∈ output, r.1.Valid) →
          Keeps Loader.IdsValid (fun refs => ∀ r ∈ refs, r.1.Valid) (afterOutput output) := by
        intro output hout
        simp -zeta only [afterOutput]
        exact Keeps.bind (keeps_targetsOf_valid _ _) fun errors herr =>
          Keeps.pure (refsValid_append (refsValid_append hin hout) (refsValid_map herr _))
      split
      · exact keeps_bindTarget_valid _ _ houtput
      · exact keeps_bindNone_valid houtput
    split
    · exact keeps_bindTarget_valid _ _ hinput
    · exact keeps_bindNone_valid hinput
  · -- a resource: its identifiers, lifecycle operations, operations and resources
    extract_lets afterIds
    have hids : ∀ ids, (∀ r ∈ ids, r.1.Valid) →
        Keeps Loader.IdsValid (fun refs => ∀ r ∈ refs, r.1.Valid) (afterIds ids) := by
      intro ids hids
      simp -zeta only [afterIds]
      refine Keeps.bind (Q := fun refs => ∀ r ∈ refs, r.1.Valid) (Keeps.filterMapM fun name _ => ?_)
        fun lifecycle hlife => ?_
      · split
        · exact Keeps.bind (keeps_targetOf_valid _) fun r hr => Keeps.pure (by simpa using hr)
        · exact Keeps.pure (by simp)
      exact Keeps.bind (keeps_targetsOf_valid _ _) fun ops hops => Keeps.bind (keeps_targetsOf_valid _ _)
        fun rs hrs => Keeps.pure (refsValid_append (refsValid_append (refsValid_append hids hlife)
          (refsValid_map hops _)) (refsValid_map hrs _))
    split
    · refine Keeps.bind Keeps.objectOf fun ms _ => Keeps.bind (Keeps.mapM fun x _ => ?_) hids
      obtain ⟨name, v⟩ := x
      exact Keeps.bind (keeps_targetOf_valid v) fun r hr => Keeps.pure (Q := fun y : ShapeReference × Binding => y.1.Valid) hr
    · exact keeps_bindNone_valid hids
  · -- a service: its operations and resources
    exact Keeps.bind (keeps_targetsOf_valid _ _) fun ops hops => Keeps.bind (keeps_targetsOf_valid _ _)
      fun rs hrs => Keeps.pure (refsValid_append (refsValid_map hops _) (refsValid_map hrs _))
  · exact Keeps.pure (by simp)

theorem keeps_applyTraits_valid {target : ShapeId} (ht : target.Valid) (traits : Option Node)
    (source : SourceLocation) : Keeps Loader.IdsValid (fun _ => True) (applyTraits target traits source) := by
  unfold applyTraits
  split
  · refine Keeps.bind Keeps.objectOf fun es _ =>
      Keeps.bind (Keeps.forIn fun x _ _ => ?_) fun _ _ => Keeps.pure trivial
    obtain ⟨name, value⟩ := x
    exact Keeps.bind (keeps_reference_valid name) fun r hr =>
      Keeps.bind (Keeps.modify fun l hl => hl.onTrait ht hr _ _) fun _ _ => Keeps.pure trivial
  · exact Keeps.pure trivial

theorem keeps_loadMember_valid (loc : Locator) {container : ShapeId} (hc : container.Valid) (name : String)
    (definition : Node) (offset : Nat) :
    Keeps Loader.IdsValid PendingMember.IdsValid (loadMember loc container name definition offset) := by
  unfold loadMember
  refine Keeps.bind (Q := ShapeId.Valid)
    (Keeps.ask fun _ _ _ h => ShapeId.valid_withMember hc (Loader.mapError_eq_ok h)) fun id hid => ?_
  refine Keeps.bind Keeps.objectOf fun es _ => ?_
  exact Keeps.bind (keeps_targetOf_valid _) fun r hr => Keeps.bind (keeps_applyTraits_valid hid _ _) fun _ _ =>
    Keeps.pure ⟨by simpa [Builder.setSource, Builder.setId] using hid, ⟨rfl, rfl, rfl, rfl, rfl⟩, by simpa using hr⟩

/-- The members a load reads are declared with valid IDs. -/
theorem keeps_shapeMembers_valid (loc : Locator) {id : ShapeId} (hid : id.Valid) (t : ShapeType)
    (es : List (String × Node)) (what : String) (offset : Nat) :
    Keeps Loader.IdsValid (fun ms => ∀ m ∈ ms, m.IdsValid) (shapeMembers loc id t es what offset) := by
  unfold shapeMembers
  split
  case h_1 | h_2 =>
    exact Keeps.bind (Keeps.requiredMember _ _ _) fun _ _ => Keeps.bind (keeps_loadMember_valid loc hid _ _ _)
      fun m hm => Keeps.pure (by simpa using hm)
  case h_3 =>
    exact Keeps.bind (Keeps.requiredMember _ _ _) fun _ _ => Keeps.bind (keeps_loadMember_valid loc hid _ _ _)
      fun k hk => Keeps.bind (Keeps.requiredMember _ _ _) fun _ _ => Keeps.bind (keeps_loadMember_valid loc hid _ _ _)
      fun v hv => Keeps.pure (by simp [hk, hv])
  case h_4 | h_5 =>
    split
    · exact Keeps.bind Keeps.objectOf fun ms _ => Keeps.mapM fun x _ => keeps_loadMember_valid loc hid _ _ _
    · exact Keeps.pure (by simp)
  case h_6 => exact Keeps.pure (by simp)

/-- The end of a shape's load declares it with valid IDs. -/
theorem keeps_declare_valid (loc : Locator) {id : ShapeId} (hid : id.Valid) (t : ShapeType)
    (es : List (String × Node)) {b : Builder} (hbid : b.id = some id) (hb : b.Unbound) (what : String)
    (source : SourceLocation) (offset : Nat) :
    Keeps Loader.IdsValid (fun _ => True) (do
      let members ← shapeMembers loc id t es what offset
      let refs ← shapeRefs t es
      applyTraits id (Node.lookup "traits" es) source
      modify fun l => l.onShape { builder := b, refs, members }) :=
  Keeps.bind (keeps_shapeMembers_valid loc hid t es what offset) fun ms hms =>
    Keeps.bind (keeps_shapeRefs_valid t es) fun refs hrefs => Keeps.bind (keeps_applyTraits_valid hid _ _)
      fun _ _ => Keeps.modify fun l hl => hl.onShape ⟨by simpa [hbid] using hid, hb, hrefs, hms⟩

theorem keeps_loadShape_valid (loc : Locator) (key : String) (definition : Node) :
    Keeps Loader.IdsValid (fun _ => True) (loadShape loc key definition) := by
  unfold loadShape
  dsimp only
  refine Keeps.bind (Q := ShapeId.Valid) (Keeps.ask fun _ _ _ h => Loader.parseId_valid h) fun id hid => ?_
  -- a member ID as the key stops the load
  by_cases hm : id.isMember = true
  · rw [if_pos hm]
    exact Keeps.malformed_bind
  rw [if_neg hm]
  refine Keeps.bind (Keeps.step fun l l' hl h => hl.onNamespace h) fun _ _ => ?_
  refine Keeps.bind Keeps.objectOf fun es _ => ?_
  split
  · split
    · -- `apply` adds traits and declares nothing
      exact Keeps.bind (keeps_applyTraits_valid hid _ _) fun _ _ => Keeps.pure trivial
    · split
      · refine Keeps.bind (Keeps.pure (Q := fun _ => True) trivial) fun t _ => ?_
        split
        · exact Keeps.malformed_bind
        · -- a fresh builder, with the `version` of a service
          split
          · split
            · split
              · exact keeps_declare_valid loc hid t es rfl ⟨rfl, rfl, rfl, rfl, rfl⟩ _ _ _
              · exact Keeps.malformed_bind
            · exact keeps_declare_valid loc hid t es rfl ⟨rfl, rfl, rfl, rfl, rfl⟩ _ _ _
          · exact keeps_declare_valid loc hid t es rfl ⟨rfl, rfl, rfl, rfl, rfl⟩ _ _ _
      · exact Keeps.malformed
  · exact Keeps.malformed

theorem keeps_loadDocument_valid (filename contents : String) :
    Keeps Loader.IdsValid (fun _ => True) (loadDocument filename contents) := by
  unfold loadDocument
  extract_lets loc finish
  have hfinish : ∀ root, Keeps Loader.IdsValid (fun _ => True) (finish root) := by
    intro root
    simp -zeta only [finish]
    refine Keeps.bind (Keeps.modify fun l hl => hl.openFile _) fun _ _ => ?_
    refine Keeps.bind Keeps.objectOf fun es _ => ?_
    -- the parts after the version, from the last one read to the first
    extract_lets declareAll putMetadata useAll
    have hshapes : ∀ u, Keeps Loader.IdsValid (fun _ => True) (declareAll u) := by
      intro u
      simp -zeta only [declareAll]
      split
      · refine Keeps.bind Keeps.objectOf fun ds _ => Keeps.bind (Keeps.forIn fun x _ _ => ?_) fun _ _ =>
          Keeps.pure trivial
        exact Keeps.bind (keeps_loadShape_valid loc x.1 x.2) fun _ _ => Keeps.pure trivial
      · exact Keeps.pure trivial
    have hmetadata : ∀ u, Keeps Loader.IdsValid (fun _ => True) (putMetadata u) := by
      intro u
      simp -zeta only [putMetadata]
      split
      · refine Keeps.bind Keeps.objectOf fun _ _ =>
          Keeps.bind (Keeps.forIn fun _ _ _ => ?_) fun _ _ => hshapes ()
        exact Keeps.bind (Keeps.modify fun l hl => hl.onMetadata _ _ _) fun _ _ => Keeps.pure trivial
      · exact hshapes ()
    have huses : ∀ u, Keeps Loader.IdsValid (fun _ => True) (useAll u) := by
      intro u
      simp -zeta only [useAll]
      split
      · refine Keeps.bind Keeps.arrayOf fun _ _ =>
          Keeps.bind (Keeps.forIn fun _ _ _ => ?_) fun _ _ => hmetadata ()
        split
        · -- an imported ID is parsed
          exact Keeps.bind (Q := ShapeId.Valid) (Keeps.ask fun _ _ _ h => Loader.parseId_valid h) fun _ hid =>
            Keeps.bind (Keeps.step fun l l' hl h => hl.onUse hid h) fun _ _ => Keeps.pure trivial
        · exact Keeps.malformed_bind
      · exact hmetadata ()
    split
    · exact Keeps.bind (Keeps.step fun l l' hl h => hl.onVersion h) fun u _ => huses u
    · exact Keeps.malformed_bind
    · exact Keeps.bind (Keeps.step fun l l' hl h => hl.onVersion h) fun u _ => huses u
  split
  · exact Keeps.bind (Keeps.pure (Q := fun _ => True) trivial) fun root _ => hfinish root
  · exact Keeps.bind (Q := fun _ => False) Keeps.throw fun _ h => h.elim

end LoadM

namespace Loader

/-- A load keeps every ID of a loader valid, also when it stops at a malformed part. -/
theorem IdsValid.load {l : Loader} (hl : l.IdsValid) (filename contents : String) :
    (l.load filename contents).1.IdsValid :=
  load_fst l filename contents ▸ (keeps_loadDocument_valid filename contents l hl).1

/-- **Every ID a run of loads puts into a fresh loader is valid.** -/
theorem IdsValid.loadAll {l : Loader} (hl : l.IdsValid) (docs : List (String × String)) :
    (l.loadAll docs).IdsValid := by
  induction docs generalizing l with
  | nil => exact hl
  | cons d rest ih => exact ih (hl.load d.1 d.2)

theorem IdsValid.empty : ({} : Loader).IdsValid := ⟨by simp, by simp, by simp⟩

end Loader

end ShapeKit
