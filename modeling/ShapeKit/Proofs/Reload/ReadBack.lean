import Mathlib.Data.String.Basic
import ShapeKit.Load.Serialize
import ShapeKit.Proofs.ShapeBuild
import ShapeKit.Proofs.IdText
import ShapeKit.Proofs.Reload.Steps

/-!
# Reading a written model back

What the loader declares when it reads the document `Model.toDocument` wrote:
every written shape becomes one pending shape (`Shape.reread`) whose
references are the absolute IDs of its body (`Body.bindings`) and whose
members wait for their written targets, and every written trait becomes one
trait application to the shape or member that carries it
(`Shape.rereadApps`). Places come from the text the document was read from;
nothing else depends on them.

What is needed of a shape for its entry to read back is `Shape.Rereadable`:
it is well formed, no member, and every ID in it (its own, its members', the
targets it binds and the traits it carries) prints as text that parses back.

Main statements:
  * `run_loadShape_toNode` — reading the entry of a rereadable shape declares
    exactly `Shape.reread` and its trait applications.
  * `run_loadDocument_toDocument` — reading a written model into a fresh loader
    succeeds, with its metadata and one declaration per written shape
    (`Model.rereadLoader`).
-/

namespace ShapeKit

open Json LoadM

/-! ## §1. What a written shape binds -/

/-- The name of a member: the member part of its ID. -/
def Member.name (m : Member) : String := m.id.member.getD ""

/-- The IDs a body binds, each with what it sets on a builder, in the order
the document lists them. -/
def Body.bindings : Body → List (ShapeId × Binding)
  | .operation op =>
    op.input.toList.map (·, .input) ++ op.output.toList.map (·, .output) ++
      op.errors.map (·, .error)
  | .resource r =>
    r.identifiers.map (fun (n, id) => (id, .identifier n)) ++
      r.lifecycle.filterMap (fun (n, o) => o.map (·, .lifecycle n)) ++
      r.operations.map (·, .operation) ++ r.resources.map (·, .resource)
  | .service s => s.operations.map (·, .operation) ++ s.resources.map (·, .resource)
  | _ => []

/-- What a shape needs for its written entry to read back as itself: it is
well formed, no member, and every ID in it reads back from its text. -/
structure Shape.Rereadable (s : Shape) : Prop where
  wellFormed : s.WellFormed
  not_member : s.isMember = false
  id_valid : s.id.Valid
  bindings_valid : ∀ x ∈ s.body.bindings, x.1.Valid
  members_valid : ∀ m ∈ s.body.members, m.id.Valid ∧ m.target.Valid ∧ ∀ t ∈ m.traits, t.id.Valid
  traits_valid : ∀ t ∈ s.traits, t.id.Valid

/-! ## §2. Looking keys up in written objects -/

namespace Json.Node

theorem lookup_append_of_not_mem {k : String} {es es' : List (String × Node)}
    (h : ∀ e ∈ es, e.1 ≠ k) : Node.lookup k (es ++ es') = Node.lookup k es' := by
  induction es with
  | nil => rfl
  | cons e es ih =>
    have hne : (e.1 == k) = false := beq_false_of_ne (h e (by simp))
    simp only [List.cons_append, Node.lookup, hne, Bool.false_eq_true, if_false]
    exact ih fun x hx => h x (by simp [hx])

theorem lookup_cons_self (k : String) (v : Node) (es : List (String × Node)) :
    Node.lookup k ((k, v) :: es) = some v := by
  simp [Node.lookup]

theorem lookup_of_not_mem {k : String} {es : List (String × Node)} (h : ∀ e ∈ es, e.1 ≠ k) :
    Node.lookup k es = none := by
  have h' : Node.lookup k (es ++ []) = Node.lookup k [] := lookup_append_of_not_mem h
  rwa [List.append_nil] at h'

end Json.Node

theorem traitsEntry_keys (ts : TraitMap) : ∀ e ∈ traitsEntry ts, e.1 = "traits" := by
  unfold traitsEntry
  split <;> simp

theorem targetsEntry_keys (name : String) (ids : List ShapeId) :
    ∀ e ∈ targetsEntry name ids, e.1 = name := by
  unfold targetsEntry
  split <;> simp

/-- No property of a body is called `traits`. -/
theorem Body.entries_ne_traits (b : Body) : ∀ e ∈ b.entries, e.1 ≠ "traits" := by
  intro e he
  cases b <;> simp [Body.entries, targetsEntry, ResourceData.lifecycle] at he ⊢ <;> grind

/-! ## §3. Traits and members read back -/

/-- A valid ID written as text reads back as an absolute reference to itself. -/
theorem Loader.reference_text (l : Loader) {id : ShapeId} (h : id.Valid) :
    l.reference id.text = .ok (.resolved id) := by
  have hc : '#' ∈ id.text.toList := ShapeId.hash_mem_text id
  unfold Loader.reference
  simp [hc, Loader.parseId, ShapeId.parse_text h]
  rfl

theorem run_ask_reference_text (l : Loader) {id : ShapeId} (h : id.Valid) :
    (ask (·.reference id.text)).run.run l = (.ok (.resolved id), l) :=
  run_ask_ok (Loader.reference_text l h)

/-- The trait applications a written trait map reads back as. -/
def TraitMap.rereadApps (ts : TraitMap) (target : ShapeId) (source : SourceLocation) :
    List PendingTrait :=
  ts.map fun t => ⟨target, .resolved t.id, t.value, source⟩

theorem foldl_onTrait (ts : TraitMap) (target : ShapeId) (source : SourceLocation) (l : Loader) :
    ts.foldl (fun l t => l.onTrait target (.resolved t.id) t.value source) l =
      { l with traits := l.traits ++ ts.rereadApps target source } := by
  induction ts generalizing l with
  | nil => simp [TraitMap.rereadApps]
  | cons t ts ih =>
    rw [List.foldl_cons, ih]
    simp [Loader.onTrait, TraitMap.rereadApps]

/-- Reading the `traits` of a written object records one application per trait. -/
theorem run_applyTraits_traitsEntry (target : ShapeId) {ts : TraitMap}
    (hts : ∀ t ∈ ts, t.id.Valid) (source : SourceLocation) (l : Loader) :
    (applyTraits target (Node.lookup "traits" (traitsEntry ts)) source).run.run l =
      (.ok (), { l with traits := l.traits ++ ts.rereadApps target source }) := by
  unfold traitsEntry
  split
  · next hempty =>
    rw [List.isEmpty_iff.mp hempty]
    simp [Node.lookup, applyTraits, TraitMap.rereadApps]
    rfl
  · rw [Json.Node.lookup_cons_self]
    unfold applyTraits
    simp only [run_bind_ok (run_objectOf_obj _ _ l), List.forIn_map]
    rw [run_bind_ok (run_forIn_ok ts _ (fun t l => l.onTrait target (.resolved t.id) t.value source)
      (fun t ht l => by
        simp only [run_bind_ok (run_ask_reference_text l (hts t ht))]
        rfl) l),
      foldl_onTrait]
    rfl

/-- The pending member a written member reads back as, its key searched from
an offset. -/
def Member.reread (m : Member) (loc : Locator) (offset : Nat) : PendingMember :=
  { builder := ((Builder.new .member).setId m.id).setSource (loc.key m.name offset).1,
    refs := [(.resolved m.target, .target)] }

/-- The trait applications of a written member. -/
def Member.rereadApps (m : Member) (loc : Locator) (offset : Nat) : List PendingTrait :=
  m.traits.rereadApps m.id (loc.key m.name offset).1

/-- The ID of a member of a valid container, rebuilt from the container and its
name. -/
theorem Member.withMember_name {m : Member} {c : ShapeId} (hv : m.id.Valid)
    (hm : m.id.isMember = true) (hc : m.id.withoutMember = c) : c.withMember m.name = .ok m.id := by
  obtain ⟨n, hn⟩ := Option.isSome_iff_exists.mp hm
  have hname : m.name = n := by simp [Member.name, hn]
  unfold ShapeId.withMember
  rw [hname, if_pos (hv.member n hn), ← hc, ← hn]
  rfl

theorem run_loadMember_toNode (loc : Locator) {c : ShapeId} {m : Member}
    (hid : c.withMember m.name = .ok m.id) (htarget : m.target.Valid)
    (hts : ∀ t ∈ m.traits, t.id.Valid) (offset : Nat) (l : Loader) :
    (loadMember loc c m.name m.toNode offset).run.run l =
      (.ok (m.reread loc offset), { l with traits := l.traits ++ m.rereadApps loc offset }) := by
  unfold loadMember
  rw [run_bind_ok (run_ask_ok (a := m.id) (by simp [hid]; rfl))]
  simp only [Member.toNode, run_bind_ok (run_objectOf_obj _ _ l)]
  rcases hkey : loc.key m.name offset with ⟨source, off⟩
  have htarget' : targetOf (.obj ([("target", .str m.target.text)] ++ traitsEntry m.traits)) =
      ask (·.reference m.target.text) := rfl
  simp only [htarget', run_bind_ok (run_ask_reference_text l htarget)]
  rw [Json.Node.lookup_append_of_not_mem (by simp), run_bind_ok (run_applyTraits_traitsEntry _ hts _ _)]
  simp [Member.reread, Member.rereadApps, hkey]
  rfl

/-! ## §4. The members of a written shape -/

/-- The properties of a written shape definition. -/
def Shape.entries (s : Shape) : List (String × Node) :=
  [("type", .str s.type.name)] ++ s.body.entries ++ traitsEntry s.traits

theorem Shape.toNode_eq (s : Shape) : s.toNode = .obj s.entries := rfl

theorem Json.Node.lookup_append (k : String) (es es' : List (String × Node)) :
    Node.lookup k (es ++ es') = (Node.lookup k es).or (Node.lookup k es') := by
  induction es with
  | nil => rfl
  | cons e es ih =>
    simp only [List.cons_append, Node.lookup]
    split <;> simp [ih]

/-- A body property is looked up among the body's entries. -/
theorem Shape.lookup_entries (s : Shape) {k : String} (htype : k ≠ "type") (htraits : k ≠ "traits") :
    Node.lookup k s.entries = Node.lookup k s.body.entries := by
  have hnone : Node.lookup k (traitsEntry s.traits) = none :=
    Json.Node.lookup_of_not_mem fun e he => by rw [traitsEntry_keys _ e he]; exact htraits.symm
  rw [Shape.entries, List.append_assoc, Json.Node.lookup_append_of_not_mem (by simpa using htype.symm),
    Json.Node.lookup_append, hnone, Option.or_none]

theorem Shape.lookup_entries_traits (s : Shape) :
    Node.lookup "traits" s.entries = Node.lookup "traits" (traitsEntry s.traits) := by
  rw [Shape.entries, List.append_assoc, Json.Node.lookup_append_of_not_mem (by simp),
    Json.Node.lookup_append_of_not_mem s.body.entries_ne_traits]

/-- A member of a rereadable shape is named so that its ID rebuilds from the
shape's. -/
theorem Shape.Rereadable.withMember {s : Shape} (hs : s.Rereadable) {m : Member}
    (hm : m ∈ s.body.members) : s.id.withMember m.name = .ok m.id := by
  have hshape : m.toShape ∈ s.memberShapes := by
    rw [Shape.memberShapes_eq]
    exact List.mem_map_of_mem hm
  obtain ⟨hmem, hc⟩ := hs.wellFormed.member_id _ hshape
  exact Member.withMember_name (hs.members_valid m hm).1 hmem hc

/-- The member names a well-formed shape of a type with fixed members has. -/
theorem Shape.WellFormed.names_of_fixed {s : Shape} (hs : s.WellFormed) {names : List String}
    (h : s.type.fixedMembers = some names) : s.body.members.map Member.name = names := by
  have hfixed := hs.fixed names h
  rw [Shape.memberShapes_eq, List.map_map] at hfixed
  have hnames : ∀ ms : List Member, ∀ ns : List String,
      ms.map (Shape.memberName ∘ Member.toShape) = ns.map some → ms.map Member.name = ns := by
    intro ms
    induction ms with
    | nil => intro ns hns; cases ns <;> simp_all
    | cons m ms ih =>
      intro ns hns
      cases ns with
      | nil => simp at hns
      | cons n ns =>
        simp only [List.map_cons, List.cons.injEq] at hns ⊢
        have hm : m.id.member = some n := hns.1
        exact ⟨by simp [Member.name, hm], ih ns hns.2⟩
  exact hnames _ _ hfixed

theorem foldl_appendTraits (ms : List Member) (f : Member → List PendingTrait) (l : Loader) :
    ms.foldl (fun l m => { l with traits := l.traits ++ f m }) l =
      { l with traits := l.traits ++ ms.flatMap f } := by
  induction ms generalizing l with
  | nil => simp
  | cons m ms ih => simp [ih, List.append_assoc]

theorem run_requiredMember_some {es : List (String × Node)} {name what : String} {n : Node}
    (h : Node.lookup name es = some n) (l : Loader) :
    (requiredMember es name what).run.run l = (.ok n, l) := by
  simp [requiredMember, h]
  rfl

/-- Reading the members of a written shape gives one pending member per member,
in order, and records their traits. -/
theorem run_shapeMembers_entries (loc : Locator) {s : Shape} (hs : s.Rereadable) (what : String)
    (offset : Nat) (l : Loader) :
    (shapeMembers loc s.id s.type s.entries what offset).run.run l =
      (.ok (s.body.members.map (·.reread loc offset)),
        { l with traits := l.traits ++ s.body.members.flatMap (·.rereadApps loc offset) }) := by
  have hread : ∀ m ∈ s.body.members, ∀ l : Loader,
      (loadMember loc s.id m.name m.toNode offset).run.run l =
        (.ok (m.reread loc offset), { l with traits := l.traits ++ m.rereadApps loc offset }) :=
    fun m hm l => run_loadMember_toNode loc (hs.withMember hm) (hs.members_valid m hm).2.1
      (hs.members_valid m hm).2.2 offset l
  have hnames := fun (names : List String) (h : s.type.fixedMembers = some names) =>
    hs.wellFormed.names_of_fixed h
  have htype : s.type = s.body.type := rfl
  cases hb : s.body with
  | list m | set m =>
    have hm : m.name = "member" := by
      simpa [hb, Body.members] using hnames ["member"] (by rw [htype, hb]; rfl)
    have hl : Node.lookup "member" s.entries = some m.toNode := by
      rw [Shape.lookup_entries _ (by decide) (by decide), hb]
      rfl
    simp only [htype, hb, Body.type, shapeMembers, run_bind_ok (run_requiredMember_some hl l)]
    rw [← hm, run_bind_ok (hread m (by simp [hb, Body.members]) l)]
    simp [Body.members, Member.rereadApps]
    rfl
  | map k v =>
    have hkv : [k.name, v.name] = ["key", "value"] := by
      simpa [hb, Body.members] using hnames ["key", "value"] (by rw [htype, hb]; rfl)
    simp only [List.cons.injEq, and_true] at hkv
    have hk : Node.lookup "key" s.entries = some k.toNode := by
      rw [Shape.lookup_entries _ (by decide) (by decide), hb]
      rfl
    have hv : Node.lookup "value" s.entries = some v.toNode := by
      rw [Shape.lookup_entries _ (by decide) (by decide), hb]
      rfl
    simp only [htype, hb, Body.type, shapeMembers, run_bind_ok (run_requiredMember_some hk l)]
    rw [← hkv.1, run_bind_ok (hread k (by simp [hb, Body.members]) l),
      run_bind_ok (run_requiredMember_some hv _), ← hkv.2,
      run_bind_ok (hread v (by simp [hb, Body.members]) _)]
    simp [Body.members, List.append_assoc]
    rfl
  | «structure» ms | union ms =>
    have hl : Node.lookup "members" s.entries = some (.obj (ms.map fun m => (m.name, m.toNode))) := by
      rw [Shape.lookup_entries _ (by decide) (by decide), hb]
      rfl
    simp only [htype, hb, Body.type, shapeMembers, hl, run_bind_ok (run_objectOf_obj _ _ l),
      List.mapM_map, Function.comp_def]
    rw [run_mapM_ok ms _ (·.reread loc offset)
      (fun m l => { l with traits := l.traits ++ m.rereadApps loc offset })
      (fun m hm l => hread m (by simpa [hb, Body.members] using hm) l), foldl_appendTraits]
    rfl
  | member t =>
    have hnm := hs.not_member
    simp [Shape.isMember, htype, hb, Body.type] at hnm
  | simple t =>
    have hsimple := hs.wellFormed.simple t hb
    cases t <;> simp_all [ShapeType.isSimple, ShapeType.index, shapeMembers, Body.members] <;> rfl
  | operation op | resource r | service sv =>
    simp [htype, hb, Body.type, shapeMembers, Body.members]
    rfl

/-! ## §5. The references of a written shape -/

theorem run_targetOf_targetNode {id : ShapeId} (h : id.Valid) (l : Loader) :
    (targetOf (targetNode id)).run.run l = (.ok (.resolved id), l) :=
  run_ask_reference_text l h

theorem run_targetsOf_targetsNode {ids : List ShapeId} (h : ∀ id ∈ ids, id.Valid) (what : String)
    (l : Loader) :
    (targetsOf (some (targetsNode ids)) what).run.run l = (.ok (ids.map .resolved), l) := by
  simp only [targetsOf, targetsNode, run_bind_ok (run_arrayOf_arr _ _ l), List.mapM_map,
    Function.comp_def]
  simpa using run_mapM_ok ids _ ShapeReference.resolved (fun _ l => l)
    (fun id hid l => run_targetOf_targetNode (h id hid) l) l

theorem lookup_targetsEntry_of_ne {k name : String} (h : k ≠ name) (ids : List ShapeId) :
    Node.lookup k (targetsEntry name ids) = none :=
  Json.Node.lookup_of_not_mem fun e he => by rw [targetsEntry_keys _ _ e he]; exact h.symm

/-- A list of targets read back from where `targetsEntry` wrote it, present or
not. -/
theorem run_targetsOf_targetsEntry (ids : List ShapeId) (h : ∀ id ∈ ids, id.Valid) (name what : String)
    (l : Loader) :
    (targetsOf (Node.lookup name (targetsEntry name ids)) what).run.run l =
      (.ok (ids.map .resolved), l) := by
  unfold targetsEntry
  split
  · next hempty =>
    rw [List.isEmpty_iff.mp hempty]
    rfl
  · rw [Json.Node.lookup_cons_self]
    exact run_targetsOf_targetsNode h what l

theorem lookup_append_of_none {k : String} {es es' : List (String × Node)}
    (h : Node.lookup k es' = none) : Node.lookup k (es ++ es') = Node.lookup k es := by
  rw [Json.Node.lookup_append, h, Option.or_none]

/-- Reading the references of a written operation: its input, its output and
its errors. -/
theorem run_shapeRefs_operation (op : OperationData) (es : List (String × Node))
    (hv : ∀ x ∈ (Body.operation op).bindings, x.1.Valid)
    (hes : ∀ k, k ≠ "type" → k ≠ "traits" → Node.lookup k es = Node.lookup k (Body.operation op).entries)
    (l : Loader) :
    (shapeRefs .operation es).run.run l =
      (.ok ((Body.operation op).bindings.map fun x => (.resolved x.1, x.2)), l) := by
  rcases op with ⟨input, output, errors⟩
  have herrors := run_targetsOf_targetsEntry errors
    (fun id hid => hv (id, .error) (by simp [Body.bindings, hid])) "errors" "`errors`"
  simp only [shapeRefs, hes "input" (by decide) (by decide), hes "output" (by decide) (by decide),
    hes "errors" (by decide) (by decide), Body.entries]
  -- one case for each of input and output, written or not
  cases input with
  | none =>
    cases output with
    | none =>
      simp only [Option.toList_none, List.map_nil, List.nil_append,
        lookup_targetsEntry_of_ne (by decide : "input" ≠ "errors"),
        lookup_targetsEntry_of_ne (by decide : "output" ≠ "errors"), pure_bind,
        run_bind_ok (herrors l), run_pure]
      simp [Body.bindings, Function.comp_def]
    | some o =>
      have ho : o.Valid := hv (o, .output) (by simp [Body.bindings])
      simp only [Option.toList_none, Option.toList_some, List.map_nil, List.map_cons, List.nil_append,
        List.singleton_append, Node.lookup, beq_iff_eq, String.reduceEq, ↓reduceIte,
        lookup_targetsEntry_of_ne (by decide : "input" ≠ "errors"), pure_bind,
        run_bind_ok (run_targetOf_targetNode ho l), run_bind_ok (herrors l), run_pure]
      simp [Body.bindings, Function.comp_def]
  | some i =>
    have hi : i.Valid := hv (i, .input) (by simp [Body.bindings])
    cases output with
    | none =>
      simp only [Option.toList_none, Option.toList_some, List.map_nil, List.map_cons,
        List.singleton_append, Node.lookup, beq_iff_eq, String.reduceEq, ↓reduceIte,
        lookup_targetsEntry_of_ne (by decide : "output" ≠ "errors"), pure_bind,
        run_bind_ok (run_targetOf_targetNode hi l), run_bind_ok (herrors l), run_pure]
      simp [Body.bindings, Function.comp_def]
    | some o =>
      have ho : o.Valid := hv (o, .output) (by simp [Body.bindings])
      simp only [Option.toList_some, List.map_cons, List.map_nil, List.cons_append, List.nil_append,
        Node.lookup, beq_iff_eq, String.reduceEq, ↓reduceIte, pure_bind,
        run_bind_ok (run_targetOf_targetNode hi l), run_bind_ok (run_targetOf_targetNode ho l),
        run_bind_ok (herrors l), run_pure]
      simp [Body.bindings, Function.comp_def]

/-- Reading the references of a written service: its operations and resources. -/
theorem run_shapeRefs_service (sv : ServiceData) (es : List (String × Node))
    (hv : ∀ x ∈ (Body.service sv).bindings, x.1.Valid)
    (hes : ∀ k, k ≠ "type" → k ≠ "traits" → Node.lookup k es = Node.lookup k (Body.service sv).entries)
    (l : Loader) :
    (shapeRefs .service es).run.run l =
      (.ok ((Body.service sv).bindings.map fun x => (.resolved x.1, x.2)), l) := by
  have hversion : ∀ k, k ≠ "version" →
      Node.lookup k (if sv.version.isEmpty then [] else [("version", .str sv.version)]) = none := by
    intro k hk
    split <;> simp [Node.lookup, Ne.symm hk]
  have hops : Node.lookup "operations" es =
      Node.lookup "operations" (targetsEntry "operations" sv.operations) := by
    rw [hes _ (by decide) (by decide), Body.entries, List.append_assoc,
      Json.Node.lookup_append, hversion _ (by decide), Option.none_or,
      lookup_append_of_none (lookup_targetsEntry_of_ne (by decide) _)]
  have hres : Node.lookup "resources" es =
      Node.lookup "resources" (targetsEntry "resources" sv.resources) := by
    rw [hes _ (by decide) (by decide), Body.entries, List.append_assoc,
      Json.Node.lookup_append, hversion _ (by decide), Option.none_or,
      Json.Node.lookup_append, lookup_targetsEntry_of_ne (by decide), Option.none_or]
  have hopsRun := run_targetsOf_targetsEntry sv.operations
    (fun id hid => hv (id, .operation) (by simp [Body.bindings, hid])) "operations" "`operations`" l
  have hresRun := run_targetsOf_targetsEntry sv.resources
    (fun id hid => hv (id, .resource) (by simp [Body.bindings, hid])) "resources" "`resources`" l
  simp only [shapeRefs, hops, hres]
  rw [run_bind_ok hopsRun, run_bind_ok hresRun, run_pure]
  simp [Body.bindings, Function.comp_def]

/-- Named optional targets written as entries are looked up by name. -/
theorem lookup_filterMap_targetNode {ps : List (String × Option ShapeId)}
    (hps : (ps.map (·.1)).Nodup) (n : String) :
    Node.lookup n (ps.filterMap fun (k, o) => o.map fun id => (k, targetNode id)) =
      ((ps.lookup n).join).map targetNode := by
  induction ps with
  | nil => rfl
  | cons p ps ih =>
    obtain ⟨k, o⟩ := p
    simp only [List.map_cons, List.nodup_cons, List.mem_map] at hps
    by_cases hnk : n = k
    · subst hnk
      cases o with
      | none =>
        -- the name is not among the later keys, so nothing later answers it
        have hrest : ∀ q ∈ ps, (n != q.1) = true := fun q hq =>
          bne_iff_ne.mpr fun heq => hps.1 ⟨q, hq, heq.symm⟩
        simp only [List.filterMap_cons, Option.map_none, List.lookup_cons_self]
        rw [ih hps.2, List.lookup_eq_none_iff.mpr hrest]
        rfl
      | some id => simp [Node.lookup]
    · have hne : (n == k) = false := beq_false_of_ne hnk
      cases o with
      | none => simp [List.lookup_cons, hne, ih hps.2]
      | some id => simp [Node.lookup, List.lookup_cons, hne, Ne.symm hnk, ih hps.2]

/-- Reading optional targets by their names gives the present ones, in order. -/
theorem filterMap_lookup_join {β : Type} {ps : List (String × Option ShapeId)}
    (hps : (ps.map (·.1)).Nodup) (f : String → ShapeId → β) :
    (ps.map (·.1)).filterMap (fun n => ((ps.lookup n).join).map (f n)) =
      ps.filterMap fun (n, o) => o.map (f n) := by
  induction ps with
  | nil => rfl
  | cons p ps ih =>
    obtain ⟨k, o⟩ := p
    simp only [List.map_cons, List.nodup_cons, List.mem_map] at hps
    simp only [List.map_cons, List.filterMap_cons, List.lookup_cons_self, Option.join_some]
    have htail : (ps.map (·.1)).filterMap (fun n => ((((k, o) :: ps).lookup n).join).map (f n)) =
        (ps.map (·.1)).filterMap (fun n => ((ps.lookup n).join).map (f n)) := by
      refine List.filterMap_congr fun n hn => ?_
      have hne : (n == k) = false := beq_false_of_ne fun h => hps.1 (by
        obtain ⟨q, hq, rfl⟩ := List.mem_map.mp hn
        exact ⟨q, hq, h⟩)
      simp [List.lookup_cons, hne]
    rw [htail, ih hps.2]

namespace ResourceData

/-- The `identifiers` entry a resource is written with. -/
def identifiersEntry (r : ResourceData) : List (String × Node) :=
  if r.identifiers.isEmpty then []
  else [("identifiers", .obj (r.identifiers.map fun (n, id) => (n, targetNode id)))]

/-- The lifecycle entries a resource is written with. -/
def lifecycleEntries (r : ResourceData) : List (String × Node) :=
  r.lifecycle.filterMap fun (n, o) => o.map fun id => (n, targetNode id)

theorem lifecycle_keys (r : ResourceData) : r.lifecycle.map (·.1) = lifecycleNames := rfl

theorem lookup_identifiersEntry_of_ne (r : ResourceData) {k : String} (hk : k ≠ "identifiers") :
    Node.lookup k r.identifiersEntry = none := by
  unfold identifiersEntry
  split <;> simp [Node.lookup, Ne.symm hk]

theorem lookup_lifecycleEntries (r : ResourceData) (name : String) :
    Node.lookup name r.lifecycleEntries = ((r.lifecycle.lookup name).join).map targetNode :=
  lookup_filterMap_targetNode (by rw [lifecycle_keys]; decide) name

theorem lookup_lifecycleEntries_of_not_mem (r : ResourceData) {k : String} (hk : k ∉ lifecycleNames) :
    Node.lookup k r.lifecycleEntries = none := by
  rw [lookup_lifecycleEntries, List.lookup_eq_none_iff.mpr]
  · rfl
  · intro p hp
    exact bne_iff_ne.mpr fun heq => hk (heq ▸ r.lifecycle_keys ▸ List.mem_map_of_mem hp)

theorem mem_lifecycle_of_lookup {r : ResourceData} {name : String} {id : ShapeId}
    (h : (r.lifecycle.lookup name).join = some id) : (name, some id) ∈ r.lifecycle := by
  obtain ⟨l₁, l₂, hsplit, -⟩ := List.lookup_eq_some_iff.mp (Option.join_eq_some_iff.mp h)
  rw [hsplit]
  simp

end ResourceData

/-- A key of a written resource is looked up in its four parts in turn. -/
theorem Body.lookup_resource_entries (r : ResourceData) (k : String) :
    Node.lookup k (Body.resource r).entries =
      ((Node.lookup k r.identifiersEntry).or (Node.lookup k r.lifecycleEntries)).or
        ((Node.lookup k (targetsEntry "operations" r.operations)).or
          (Node.lookup k (targetsEntry "resources" r.resources))) := by
  have hentries : (Body.resource r).entries = r.identifiersEntry ++ (r.lifecycleEntries ++
      (targetsEntry "operations" r.operations ++ targetsEntry "resources" r.resources)) := by
    simp only [Body.entries, List.append_assoc]
    rfl
  simp only [hentries, Json.Node.lookup_append, Option.or_assoc]

/-- Reading the references of a written resource: its identifiers, its
lifecycle operations, its operations and its resources. -/
theorem run_shapeRefs_resource (r : ResourceData) (es : List (String × Node))
    (hv : ∀ x ∈ (Body.resource r).bindings, x.1.Valid)
    (hes : ∀ k, k ≠ "type" → k ≠ "traits" → Node.lookup k es = Node.lookup k (Body.resource r).entries)
    (l : Loader) :
    (shapeRefs .resource es).run.run l =
      (.ok ((Body.resource r).bindings.map fun x => (.resolved x.1, x.2)), l) := by
  have hops : Node.lookup "operations" es =
      Node.lookup "operations" (targetsEntry "operations" r.operations) := by
    rw [hes _ (by decide) (by decide), Body.lookup_resource_entries,
      r.lookup_identifiersEntry_of_ne (by decide), r.lookup_lifecycleEntries_of_not_mem (by decide),
      lookup_targetsEntry_of_ne (show "operations" ≠ "resources" by decide)]
    simp
  have hres : Node.lookup "resources" es =
      Node.lookup "resources" (targetsEntry "resources" r.resources) := by
    rw [hes _ (by decide) (by decide), Body.lookup_resource_entries,
      r.lookup_identifiersEntry_of_ne (by decide), r.lookup_lifecycleEntries_of_not_mem (by decide),
      lookup_targetsEntry_of_ne (show "resources" ≠ "operations" by decide)]
    simp
  have hlife : ∀ name ∈ lifecycleNames, Node.lookup name es =
      ((r.lifecycle.lookup name).join).map targetNode := by
    intro name hname
    have hne : ∀ k ∈ ["type", "traits", "identifiers", "operations", "resources"], name ≠ k := by
      intro k hk heq
      subst heq
      revert hname
      simp only [lifecycleNames, List.mem_cons] at hk ⊢
      rcases hk with rfl | rfl | rfl | rfl | rfl | h <;> simp_all
    rw [hes _ (hne "type" (by simp)) (hne "traits" (by simp)), Body.lookup_resource_entries,
      r.lookup_identifiersEntry_of_ne (hne "identifiers" (by simp)),
      lookup_targetsEntry_of_ne (hne "operations" (by simp)),
      lookup_targetsEntry_of_ne (hne "resources" (by simp)), r.lookup_lifecycleEntries]
    simp
  have hlifeValid : ∀ name id, (r.lifecycle.lookup name).join = some id → id.Valid := by
    intro name id hjoin
    refine hv (id, .lifecycle name) ?_
    simp only [Body.bindings, List.mem_append, List.mem_filterMap]
    exact .inl (.inl (.inr ⟨(name, some id), ResourceData.mem_lifecycle_of_lookup hjoin, rfl⟩))
  have hopsRun := run_targetsOf_targetsEntry r.operations
    (fun id hid => hv (id, .operation) (by simp [Body.bindings, hid])) "operations" "`operations`"
  have hresRun := run_targetsOf_targetsEntry r.resources
    (fun id hid => hv (id, .resource) (by simp [Body.bindings, hid])) "resources" "`resources`"
  simp only [shapeRefs]
  -- the identifiers are read first, from an entry that is written only when there are any
  by_cases hne : r.identifiers = []
  on_goal 1 =>
    have hnone : Node.lookup "identifiers" es = none := by
      rw [hes _ (by decide) (by decide), Body.lookup_resource_entries,
        r.lookup_lifecycleEntries_of_not_mem (by decide),
        lookup_targetsEntry_of_ne (show "identifiers" ≠ "operations" by decide),
        lookup_targetsEntry_of_ne (show "identifiers" ≠ "resources" by decide)]
      simp [ResourceData.identifiersEntry, hne, Node.lookup]
    simp only [hnone, pure_bind]
    rw [← List.map_nil (f := fun x : String × ShapeId => (ShapeReference.resolved x.2, Binding.identifier x.1)),
      ← hne]
  on_goal 2 =>
    have hsome : Node.lookup "identifiers" es =
        some (.obj (r.identifiers.map fun (n, id) => (n, targetNode id))) := by
      rw [hes _ (by decide) (by decide), Body.lookup_resource_entries,
        r.lookup_lifecycleEntries_of_not_mem (by decide),
        lookup_targetsEntry_of_ne (show "identifiers" ≠ "operations" by decide),
        lookup_targetsEntry_of_ne (show "identifiers" ≠ "resources" by decide)]
      simp [ResourceData.identifiersEntry, hne, Node.lookup]
    simp only [hsome, run_bind_ok (run_objectOf_obj _ _ l), List.mapM_map, Function.comp_def]
    rw [run_bind_ok (run_mapM_ok_keep r.identifiers _
      (fun x => (ShapeReference.resolved x.2, Binding.identifier x.1))
      (fun x hx l => run_bind_ok (run_targetOf_targetNode (hv (x.2, .identifier x.1)
        (by simp only [Body.bindings, List.mem_append]
            exact .inl (.inl (.inl (List.mem_map_of_mem hx))))) l) _) l)]
  -- the rest reads the same whether identifiers were written or not
  all_goals
    rw [run_bind_ok (run_filterMapM_ok_keep lifecycleNames _
      (fun name => ((r.lifecycle.lookup name).join).map
        fun id => (ShapeReference.resolved id, Binding.lifecycle name))
      (fun name hname l => ?round) l), hops, run_bind_ok (hopsRun _), hres, run_bind_ok (hresRun _),
      run_pure]
    case round =>
      have hl := hlife name hname
      split
      next n hn =>
        rw [hl] at hn
        obtain ⟨id, hid, rfl⟩ := Option.map_eq_some_iff.mp hn
        rw [run_bind_ok (run_targetOf_targetNode (hlifeValid name id hid) l)]
        simp [hid]
        rfl
      next hn =>
        rw [hl, Option.map_eq_none_iff] at hn
        simp [hn]
        rfl
    rw [← r.lifecycle_keys, filterMap_lookup_join (by rw [r.lifecycle_keys]; decide)]
    simp [Body.bindings, Function.comp_def, List.map_filterMap]

/-- Reading the references of a written shape gives exactly the IDs its body
binds, as absolute references. -/
theorem run_shapeRefs_entries {s : Shape} (hs : s.Rereadable) (l : Loader) :
    (shapeRefs s.type s.entries).run.run l =
      (.ok (s.body.bindings.map fun x => (.resolved x.1, x.2)), l) := by
  have hes : ∀ k, k ≠ "type" → k ≠ "traits" → Node.lookup k s.entries = Node.lookup k s.body.entries :=
    fun _ h1 h2 => s.lookup_entries h1 h2
  have htype : s.type = s.body.type := rfl
  have hv := hs.bindings_valid
  cases hb : s.body with
  | operation op =>
    rw [hb] at hes hv
    rw [htype, hb]
    exact run_shapeRefs_operation op _ hv hes l
  | resource r =>
    rw [hb] at hes hv
    rw [htype, hb]
    exact run_shapeRefs_resource r _ hv hes l
  | service sv =>
    rw [hb] at hes hv
    rw [htype, hb]
    exact run_shapeRefs_service sv _ hv hes l
  | simple t =>
    have hsimple := hs.wellFormed.simple t hb
    cases t <;> simp_all [ShapeType.isSimple, ShapeType.index, shapeRefs, Body.bindings] <;> rfl
  | list m | set m | map k v | «structure» ms | union ms | member t =>
    simp [htype, hb, Body.type, shapeRefs, Body.bindings]
    rfl

/-! ## §6. A written shape -/

theorem ShapeType.name_ne_apply (t : ShapeType) : t.name ≠ "apply" := by
  cases t <;> decide

theorem ShapeType.parse_name (t : ShapeType) : ShapeType.parse t.name = .ok t := by
  simp [ShapeType.parse, ShapeType.ofName?_name]

/-- The builder a written shape reads back as: its type, ID and place, and the
version of a service. -/
def Shape.rereadBuilder (s : Shape) (source : SourceLocation) : Builder :=
  let b := ((Builder.new s.type).setId s.id).setSource source
  match s.body with
  | .service sv => b.setVersion sv.version
  | _ => b

/-- The pending shape a written shape reads back as. -/
def Shape.reread (s : Shape) (loc : Locator) : PendingShape :=
  { builder := s.rereadBuilder (loc.key s.id.text 0).1,
    refs := s.body.bindings.map fun x => (.resolved x.1, x.2),
    members := s.body.members.map (·.reread loc (loc.key s.id.text 0).2) }

/-- The trait applications of a written shape: its members' in order, then its own. -/
def Shape.rereadApps (s : Shape) (loc : Locator) : List PendingTrait :=
  s.body.members.flatMap (·.rereadApps loc (loc.key s.id.text 0).2) ++
    s.traits.rereadApps s.id (loc.key s.id.text 0).1

theorem Shape.rereadBuilder_of_ne {s : Shape} (h : s.type ≠ .service) (source : SourceLocation) :
    s.rereadBuilder source = ((Builder.new s.type).setId s.id).setSource source := by
  unfold Shape.rereadBuilder
  split
  · next sv hb => exact absurd (by simp [Shape.type, hb, Body.type]) h
  · rfl

theorem Shape.lookup_entries_type (s : Shape) : Node.lookup "type" s.entries = some (.str s.type.name) := by
  simp [Shape.entries, Node.lookup]

/-- The last part of reading a written shape: its members, its references and
its traits, then the declaration of the pending shape with a builder. -/
theorem run_loadShape_tail (loc : Locator) {s : Shape} (hs : s.Rereadable) (b : Builder)
    (what : String) (source : SourceLocation) (offset : Nat) (l : Loader) :
    (do
      let members ← shapeMembers loc s.id s.type s.entries what offset
      let refs ← shapeRefs s.type s.entries
      applyTraits s.id (Node.lookup "traits" s.entries) source
      modify fun x => x.onShape { builder := b, refs := refs, members := members } : LoadM Unit).run.run l =
      (.ok (), ({ l with traits := l.traits ++ (s.body.members.flatMap (fun m : Member => m.rereadApps loc offset) ++
          s.traits.rereadApps s.id source) }).onShape
        { builder := b, refs := s.body.bindings.map fun x : ShapeId × Binding => (.resolved x.1, x.2),
          members := s.body.members.map fun m : Member => m.reread loc offset }) := by
  rw [run_bind_ok (run_shapeMembers_entries loc hs what offset l), run_bind_ok (run_shapeRefs_entries hs _),
    Shape.lookup_entries_traits, run_bind_ok (run_applyTraits_traitsEntry _ hs.traits_valid _ _), run_modify]
  simp [List.append_assoc]

theorem run_loadShape_toNode (loc : Locator) {s : Shape} (hs : s.Rereadable) (l : Loader) :
    (loadShape loc s.id.text s.toNode).run.run l =
      (.ok (), ({ l with currentNamespace := some s.id.ns, traits := l.traits ++ s.rereadApps loc }).onShape
        (s.reread loc)) := by
  have hparse : l.parseId s.id.text = .ok s.id := by
    unfold Loader.parseId
    rw [ShapeId.parse_text hs.id_valid]
    rfl
  have hidMember : s.id.isMember = false := by
    have := hs.wellFormed.id_isMember
    rw [hs.not_member] at this
    exact this
  have hns : ∀ l : Loader, l.onNamespace s.id.ns = .ok { l with currentNamespace := some s.id.ns } := by
    intro l
    simp [Loader.onNamespace, hs.id_valid.ns]
  unfold loadShape
  rw [run_bind_ok (run_ask_ok (f := fun x => x.parseId s.id.text) hparse)]
  simp only [hidMember, Bool.false_eq_true, if_false]
  rw [run_bind_ok (run_step_ok (hns l)), Shape.toNode_eq, run_bind_ok (run_objectOf_obj _ _ _)]
  rcases hkey : loc.key s.id.text 0 with ⟨source, offset⟩
  simp only [Shape.lookup_entries_type, Option.bind_some, Node.asStr?, beq_iff_eq, s.type.name_ne_apply,
    if_false, ShapeType.parse_name, pure_bind]
  have hnotMember : s.type ≠ .member := by
    have := hs.not_member
    simpa [Shape.isMember] using this
  simp only [hnotMember, if_false]
  by_cases hsvc : s.type = .service
  · obtain ⟨sv, hb⟩ : ∃ sv, s.body = .service sv := by
      cases hb : s.body with
      | service sv => exact ⟨sv, rfl⟩
      | simple t =>
        have hsimple := hs.wellFormed.simple t hb
        simp only [Shape.type, hb, Body.type] at hsvc
        simp [hsvc, ShapeType.isSimple, ShapeType.index] at hsimple
      | _ => simp [Shape.type, hb, Body.type] at hsvc
    rw [if_pos hsvc]
    -- the version is written only when there is one
    by_cases hempty : sv.version.isEmpty
    · have hnone : Node.lookup "version" s.entries = none := by
        rw [s.lookup_entries (by decide) (by decide), hb, Body.entries, if_pos hempty, List.nil_append,
          lookup_append_of_none (lookup_targetsEntry_of_ne (by decide) _), lookup_targetsEntry_of_ne (by decide)]
      simp only [hnone]
      rw [run_loadShape_tail loc hs]
      have hv : sv.version = "" := String.isEmpty_iff.mp hempty
      simp [Shape.reread, Shape.rereadBuilder, Shape.rereadApps, hkey, hb, hv]
      rfl
    · have hsome : Node.lookup "version" s.entries = some (.str sv.version) := by
        rw [s.lookup_entries (by decide) (by decide), hb, Body.entries, if_neg hempty]
        rfl
      simp only [hsome]
      rw [run_loadShape_tail loc hs]
      simp [Shape.reread, Shape.rereadBuilder, Shape.rereadApps, hkey, hb]
  · rw [if_neg hsvc, run_loadShape_tail loc hs]
    simp [Shape.reread, Shape.rereadBuilder_of_ne hsvc, Shape.rereadApps, hkey]

/-! ## §7. A written model -/

theorem versionParts_modelVersion : versionParts modelVersion = .ok (1, 0) := by
  have hsplit : modelVersion.splitToList (· == '.') = ["1", "0"] := by
    rw [String.splitToList_of_valid]
    decide
  simp [versionParts, hsplit, versionPart]

theorem isVersionSupported_modelVersion :
    isVersionSupported modelVersion modelVersion = .ok true := by
  simp [isVersionSupported, versionParts_modelVersion]

theorem Loader.onVersion_modelVersion {l : Loader} (h : l.version = none) :
    l.onVersion modelVersion = .ok { l with version := some modelVersion } := by
  simp [Loader.onVersion, versionParts_modelVersion, isVersionSupported_modelVersion, h]

/-- The shapes a model's document writes: neither members nor prelude shapes, in ID order. -/
def Model.written (m : Model) : List Shape :=
  m.shapes.filter fun s => !s.isMember && !isPreludeShape s.id

/-- The loader that reading a model's document into a fresh loader leaves. -/
def Model.rereadLoader (m : Model) (loc : Locator) : Loader :=
  m.written.foldl (fun l s =>
      ({ l with currentNamespace := some s.id.ns, traits := l.traits ++ s.rereadApps loc }).onShape
        (s.reread loc))
    (m.metadata.foldl (fun l (k, v) => l.onMetadata k v (loc.key k 0).1)
      { file := loc.filename, version := some modelVersion })

theorem Model.toDocument_eq (m : Model) : m.toDocument =
    .obj ([("smithy", .str modelVersion)] ++
      (if m.metadata.isEmpty then [] else [("metadata", Node.obj m.metadata)]) ++
      [("shapes", .obj (m.written.map fun s => (s.id.text, s.toNode)))]) := rfl

theorem run_forIn_metadata (loc : Locator) (md : List (String × Node)) (l : Loader) :
    (forIn md PUnit.unit fun x _ => do
        modify fun l => l.onMetadata x.1 x.2 (loc.key x.1 0).1
        pure (ForInStep.yield PUnit.unit) : LoadM PUnit).run.run l =
      (.ok (), md.foldl (fun l (k, v) => l.onMetadata k v (loc.key k 0).1) l) :=
  run_forIn_ok md _ (fun x l => l.onMetadata x.1 x.2 (loc.key x.1 0).1) (fun _ _ _ => rfl) l

theorem run_forIn_written (loc : Locator) {ws : List Shape} (hws : ∀ s ∈ ws, s.Rereadable)
    (l : Loader) :
    (forIn (ws.map fun s => (s.id.text, s.toNode)) PUnit.unit fun x _ => do
        loadShape loc x.1 x.2
        pure (ForInStep.yield PUnit.unit) : LoadM PUnit).run.run l =
      (.ok (), ws.foldl (fun l s =>
        ({ l with currentNamespace := some s.id.ns, traits := l.traits ++ s.rereadApps loc }).onShape
          (s.reread loc)) l) := by
  rw [List.forIn_map]
  exact run_forIn_ok ws _ _ (fun s hs l => by
    simp only
    rw [run_bind_ok (run_loadShape_toNode loc (hws s hs) l)]
    rfl) l

theorem run_loadDocument_toDocument {m : Model} {name text : String}
    (hread : read text = .ok m.toDocument) (hws : ∀ s ∈ m.written, s.Rereadable) :
    (loadDocument name text).run.run {} = (.ok (), m.rereadLoader ⟨name, text.toList.toArray⟩) := by
  unfold loadDocument
  simp only [hread, pure_bind, run_bind_ok (run_modify _ _), m.toDocument_eq,
    run_bind_ok (run_objectOf_obj _ _ _)]
  have hversion : (({} : Loader).openFile name).onVersion modelVersion =
      .ok { file := name, version := some modelVersion } := Loader.onVersion_modelVersion rfl
  have hwritten := run_forIn_written ⟨name, text.toList.toArray⟩ hws
  -- the metadata entry is written only when there is metadata
  by_cases hmd : m.metadata.isEmpty
  · simp only [hmd, List.append_nil, List.singleton_append, Node.lookup, beq_iff_eq,
      String.reduceEq, ↓reduceIte]
    rw [run_bind_ok (run_step_ok hversion), run_bind_ok (run_objectOf_obj _ _ _),
      run_bind_ok (hwritten _), run_pure, Model.rereadLoader, List.isEmpty_iff.mp hmd]
    rfl
  · simp only [hmd, Bool.false_eq_true, List.cons_append, List.nil_append, Node.lookup, beq_iff_eq,
      String.reduceEq, ↓reduceIte]
    rw [run_bind_ok (run_step_ok hversion), run_bind_ok (run_objectOf_obj _ _ _),
      run_bind_ok (run_forIn_metadata _ _ _), run_bind_ok (run_objectOf_obj _ _ _),
      run_bind_ok (hwritten _), run_pure, Model.rereadLoader]

end ShapeKit
