import ShapeKit.Proofs.Reload.Steps
import ShapeKit.Proofs.DuplicateShapes

/-!
# A load, call by call

A JSON AST load reads the loader it runs on in one place only, the model
version. Everything else it reads is the file state: the name of the file,
the current namespace and the `use` aliases. And what it does to the rest of
the loader goes through the visitor calls that declare: shapes, trait
applications and metadata entries. So past its version, a load is a run of
declaring calls fixed by the document, whatever the loader holds.

  §1. The file state, and the declaring calls, which do not touch it
  §2. Traced steps: `Traced C x` says the step `x` gives one result, one run
      of declaring calls (each satisfying `C`) and one file state to leave
      from each file state it starts in; one lemma per way a step is built
  §3. Every reading step of a document is traced
  §4. A load is its version step and a run of declaring calls
      (`Loader.load_trace`)
-/

namespace ShapeKit

open Json

/-! ## §1. The file state -/

namespace Loader

/-- The part of a loader that belongs to the file being read. -/
structure FileState where
  file : String
  currentNamespace : Option String
  aliases : List (String × ShapeId)

/-- The file state of a loader. -/
def fileState (l : Loader) : FileState := ⟨l.file, l.currentNamespace, l.aliases⟩

/-- The loader with another file state. -/
def withFileState (l : Loader) (F : FileState) : Loader :=
  { l with file := F.file, currentNamespace := F.currentNamespace, aliases := F.aliases }

variable {l : Loader} {F F' : FileState}

@[simp] theorem fileState_withFileState : (l.withFileState F).fileState = F := rfl

@[simp] theorem withFileState_self : l.withFileState l.fileState = l := rfl

@[simp] theorem withFileState_withFileState : (l.withFileState F).withFileState F' = l.withFileState F' := rfl

theorem openFile_eq (name : String) : l.openFile name = l.withFileState ⟨name, none, []⟩ := rfl

end Loader

namespace VisitorCall

/-- The calls that declare something: a shape, a trait application or a
metadata entry. -/
def Declares : VisitorCall → Prop
  | .shape _ | .trait .. | .metadata .. => True
  | _ => False

/-- A declaring call neither reads nor changes the file state. -/
theorem apply_withFileState {c : VisitorCall} (hc : c.Declares) (l : Loader) (F : Loader.FileState) :
    c.apply (l.withFileState F) = (c.apply l).withFileState F := by
  cases c with
  | shape p =>
    show (l.withFileState F).onShape p = (l.onShape p).withFileState F
    unfold Loader.onShape
    split
    · rfl
    · simp only [apply_ite (fun l => Loader.withFileState l F)]
      rfl
  | trait target name value source => rfl
  | metadata key value source =>
    show (l.withFileState F).onMetadata key value source = (l.onMetadata key value source).withFileState F
    unfold Loader.onMetadata
    -- the same key is looked up in the same metadata
    rw [show (l.withFileState F).metadata = l.metadata from rfl]
    split
    · rfl
    · simp only [apply_ite (fun l => Loader.withFileState l F)]
      split
      · rfl
      · split <;> rfl
  | _ => exact hc.elim

theorem fileState_apply {c : VisitorCall} (hc : c.Declares) (l : Loader) : (c.apply l).fileState = l.fileState := by
  rw [← l.withFileState_self, apply_withFileState hc, Loader.fileState_withFileState, Loader.fileState_withFileState]

theorem run_append (cs cs' : List VisitorCall) (l : Loader) : run (cs ++ cs') l = run cs' (run cs l) :=
  List.foldl_append

theorem run_withFileState {cs : List VisitorCall} (hcs : ∀ c ∈ cs, c.Declares) (l : Loader)
    (F : Loader.FileState) : run cs (l.withFileState F) = (run cs l).withFileState F := by
  induction cs generalizing l with
  | nil => rfl
  | cons c rest ih =>
    show run rest (c.apply (l.withFileState F)) = (run rest (c.apply l)).withFileState F
    rw [apply_withFileState (hcs c (by simp)), ih (fun c' hc' => hcs c' (by simp [hc']))]

end VisitorCall

/-! ## §2. Traced steps -/

namespace LoadM

open Loader (FileState)

variable {α β : Type} {C : VisitorCall → Prop}

/-- From each file state `F` it starts in, the step `x` gives one result, one
run of declaring calls, each satisfying `C`, and one file state to leave,
whatever the rest of the loader holds. -/
def Traced (C : VisitorCall → Prop) (x : LoadM α) : Prop :=
  ∀ F : FileState, ∃ r cs F', (∀ c ∈ cs, c.Declares ∧ C c) ∧
    ∀ l : Loader, l.fileState = F → x.run.run l = (r, (VisitorCall.run cs l).withFileState F')

/-- A step that makes no call and keeps the file state. -/
theorem Traced.of_run {x : LoadM α} (r : FileState → Except LoadError α)
    (h : ∀ l : Loader, x.run.run l = (r l.fileState, l)) : Traced C x :=
  fun F => ⟨r F, [], F, by simp, fun l hl => by subst hl; simp [h, VisitorCall.run]⟩

theorem Traced.pure (a : α) : Traced C (pure a : LoadM α) :=
  Traced.of_run (fun _ => .ok a) fun _ => rfl

theorem Traced.throw (e : LoadError) : Traced C (throw e : LoadM α) :=
  Traced.of_run (fun _ => .error e) fun _ => rfl

theorem Traced.malformed (m : String) : Traced C (ShapeKit.malformed m : LoadM α) :=
  Traced.of_run (fun F => .error (.invalidAst F.file m)) fun _ => rfl

/-- A question about the file state. -/
theorem Traced.ask {f : Loader → Except LoadError α} (g : FileState → Except LoadError α)
    (hf : ∀ l, f l = g l.fileState) : Traced C (ShapeKit.ask f) :=
  Traced.of_run g fun l => by
    rw [run_ask, hf]
    cases g l.fileState <;> rfl

/-- A step that changes the file state only. -/
theorem Traced.step {f : Loader → Except LoadError Loader} (g : FileState → Except LoadError FileState)
    (hf : ∀ l, f l = (g l.fileState).map l.withFileState) : Traced C (ShapeKit.step f) := by
  intro F
  cases hg : g F with
  | error e => exact ⟨.error e, [], F, by simp, fun l hl => by subst hl; rw [run_step, hf, hg]; rfl⟩
  | ok F' => exact ⟨.ok (), [], F', by simp, fun l hl => by subst hl; rw [run_step, hf, hg]; rfl⟩

/-- One declaring call. -/
theorem Traced.modify {f : Loader → Loader} (c : VisitorCall) (hc : c.Declares) (hC : C c)
    (hf : ∀ l, f l = c.apply l) : Traced C (modify f) := by
  intro F
  refine ⟨.ok (), [c], F, by simp [hc, hC], fun l hl => ?_⟩
  subst hl
  rw [run_modify, hf]
  show (Except.ok (), c.apply l) = (Except.ok (), (c.apply l).withFileState l.fileState)
  rw [← VisitorCall.fileState_apply hc l, Loader.withFileState_self]

theorem Traced.bind {x : LoadM α} {f : α → LoadM β} (hx : Traced C x) (hf : ∀ a, Traced C (f a)) :
    Traced C (x >>= f) := by
  intro F
  obtain ⟨r, cs, F₁, hcs, hrun⟩ := hx F
  cases r with
  | error e => exact ⟨.error e, cs, F₁, hcs, fun l hl => run_bind_error (hrun l hl) f⟩
  | ok a =>
    obtain ⟨r', cs', F₂, hcs', hrun'⟩ := hf a F₁
    refine ⟨r', cs ++ cs', F₂, fun c hc => (List.mem_append.mp hc).elim (hcs c) (hcs' c), fun l hl => ?_⟩
    -- the second part starts in the file state the first leaves
    rw [run_bind_ok (hrun l hl), hrun' _ Loader.fileState_withFileState,
      VisitorCall.run_withFileState (fun c hc => (hcs' c hc).1), Loader.withFileState_withFileState,
      VisitorCall.run_append]

theorem Traced.mono {x : LoadM α} {C' : VisitorCall → Prop} (hx : Traced C x) (h : ∀ c, C c → C' c) :
    Traced C' x := by
  intro F
  obtain ⟨r, cs, F', hcs, hrun⟩ := hx F
  exact ⟨r, cs, F', fun c hc => ⟨(hcs c hc).1, h c (hcs c hc).2⟩, hrun⟩

theorem Traced.objectOf (n : Json.Node) (what : String) : Traced C (ShapeKit.objectOf n what) := by
  unfold ShapeKit.objectOf
  split
  · exact Traced.pure _
  · exact Traced.malformed _

theorem Traced.arrayOf (n : Json.Node) (what : String) : Traced C (ShapeKit.arrayOf n what) := by
  unfold ShapeKit.arrayOf
  split
  · exact Traced.pure _
  · exact Traced.malformed _

theorem Traced.malformed_bind {m : String} {f : α → LoadM β} : Traced C (ShapeKit.malformed m >>= f) :=
  Traced.of_run (fun F => .error (.invalidAst F.file m)) fun l => run_bind_error (run_malformed m l) f

/-- An object's entries, and the step that takes them on. -/
theorem Traced.objectOf_bind {n : Json.Node} {what : String} {f : List (String × Json.Node) → LoadM β}
    (hf : ∀ es, n = .obj es → Traced C (f es)) : Traced C (ShapeKit.objectOf n what >>= f) := by
  unfold ShapeKit.objectOf
  split
  · next es => exact (pure_bind es f).symm ▸ hf es rfl
  · exact Traced.malformed_bind

theorem Traced.forIn {xs : List α} {b : β} {f : α → β → LoadM (ForInStep β)}
    (hf : ∀ x ∈ xs, ∀ b, Traced C (f x b)) : Traced C (forIn xs b f) := by
  induction xs generalizing b with
  | nil => exact Traced.pure b
  | cons x xs ih =>
    rw [List.forIn_cons]
    refine Traced.bind (hf x (by simp) b) fun r => ?_
    cases r with
    | done b' => exact Traced.pure b'
    | yield b' => exact ih (fun y hy => hf y (by simp [hy]))

theorem Traced.mapM {xs : List α} {f : α → LoadM β} (hf : ∀ x ∈ xs, Traced C (f x)) :
    Traced C (xs.mapM f) := by
  induction xs with
  | nil => exact Traced.pure []
  | cons x xs ih =>
    rw [List.mapM_cons]
    exact Traced.bind (hf x (by simp)) fun y =>
      Traced.bind (ih fun z hz => hf z (by simp [hz])) fun ys => Traced.pure _

theorem Traced.filterMapM {xs : List α} {f : α → LoadM (Option β)} (hf : ∀ x ∈ xs, Traced C (f x)) :
    Traced C (xs.filterMapM f) := by
  induction xs with
  | nil => exact Traced.pure []
  | cons x xs ih =>
    rw [List.filterMapM_cons]
    refine Traced.bind (hf x (by simp)) fun o => ?_
    cases o with
    | none => exact ih fun z hz => hf z (by simp [hz])
    | some y => exact Traced.bind (ih fun z hz => hf z (by simp [hz])) fun ys => Traced.pure _

end LoadM

/-! ## §3. The reading steps of a document -/

/-- The metadata keys a document gives. -/
def metadataKeys (text : String) : List String :=
  match read text with
  | .ok (.obj es) =>
    match Node.lookup "metadata" es with
    | some (.obj ms) => ms.map Prod.fst
    | _ => []
  | _ => []

theorem Locator.key_filename (loc : Locator) (k : String) (start : Nat) :
    (loc.key k start).1.filename = loc.filename := by
  unfold Locator.key
  dsimp only
  split <;> rfl

namespace VisitorCall

/-- What a call of a load of the document `text` under the name `name` is like:
it comes from a place in the file, a shape it declares has an ID, and a
metadata entry is under one of the document's keys, with the place of that key. -/
def OfDocument (name text : String) : VisitorCall → Prop
  | .shape p => p.source.filename = name ∧ p.id.isSome
  | .trait _ _ _ source => source.filename = name
  | .metadata key _ source =>
    key ∈ metadataKeys text ∧ source = (Locator.key ⟨name, text.toList.toArray⟩ key 0).1
  | _ => True

end VisitorCall

namespace LoadM

open Loader (FileState)

variable {text : String}

/-- A question whose answer depends on the file state only. -/
theorem Traced.ask_fileState {α : Type} {C : VisitorCall → Prop} {f : Loader → Except LoadError α}
    (hf : ∀ l, f l = f (({} : Loader).withFileState l.fileState)) : Traced C (ShapeKit.ask f) :=
  Traced.ask (fun F => f (({} : Loader).withFileState F)) hf

theorem traced_reference (name : String) (ref : String) :
    Traced (VisitorCall.OfDocument name text) (ShapeKit.ask (·.reference ref)) :=
  Traced.ask_fileState fun _ => rfl

theorem traced_targetOf (name : String) (n : Node) :
    Traced (VisitorCall.OfDocument name text) (targetOf n) := by
  unfold targetOf
  split
  · exact traced_reference name _
  · exact Traced.malformed _

theorem traced_targetsOf (name : String) (n : Option Node) (what : String) :
    Traced (VisitorCall.OfDocument name text) (targetsOf n what) := by
  unfold targetsOf
  split
  · exact Traced.pure _
  · exact Traced.bind (Traced.arrayOf _ _) fun xs => Traced.mapM fun x _ => traced_targetOf name x

/-- The trait applications of a `traits` object, each from the place given. -/
theorem traced_applyTraits {name : String} (target : ShapeId) (traits : Option Node) {source : SourceLocation}
    (hs : source.filename = name) : Traced (VisitorCall.OfDocument name text) (applyTraits target traits source) := by
  unfold applyTraits
  split
  · refine Traced.bind (Traced.objectOf _ _) fun es =>
      Traced.bind (Traced.forIn fun x _ _ => ?_) fun _ => Traced.pure _
    exact Traced.bind (traced_reference name x.1) fun r =>
      Traced.bind (Traced.modify (.trait target r x.2 source) trivial hs fun _ => rfl) fun _ => Traced.pure _
  · exact Traced.pure _

theorem traced_shapeRefs (name : String) (t : ShapeType) (es : List (String × Node)) :
    Traced (VisitorCall.OfDocument name text) (shapeRefs t es) := by
  unfold shapeRefs
  split
  · -- an operation: its input, output and errors
    extract_lets afterInput
    have hinput : ∀ input, Traced (VisitorCall.OfDocument name text) (afterInput input) := by
      intro input
      simp -zeta only [afterInput]
      extract_lets afterOutput
      have houtput : ∀ output, Traced (VisitorCall.OfDocument name text) (afterOutput output) := fun output =>
        Traced.bind (traced_targetsOf name _ _) fun _ => Traced.pure _
      split
      · exact Traced.bind (traced_targetOf name _) fun _ => Traced.bind (Traced.pure _) houtput
      · exact Traced.bind (Traced.pure _) houtput
    split
    · exact Traced.bind (traced_targetOf name _) fun _ => Traced.bind (Traced.pure _) hinput
    · exact Traced.bind (Traced.pure _) hinput
  · -- a resource: its identifiers, lifecycle operations, operations and resources
    extract_lets afterIds
    have hids : ∀ ids, Traced (VisitorCall.OfDocument name text) (afterIds ids) := by
      intro ids
      simp -zeta only [afterIds]
      refine Traced.bind (Traced.filterMapM fun n _ => ?_) fun _ =>
        Traced.bind (traced_targetsOf name _ _) fun _ => Traced.bind (traced_targetsOf name _ _) fun _ =>
          Traced.pure _
      split
      · exact Traced.bind (traced_targetOf name _) fun _ => Traced.pure _
      · exact Traced.pure _
    split
    · refine Traced.bind (Traced.objectOf _ _) fun ms => Traced.bind (Traced.mapM fun x _ => ?_) hids
      exact Traced.bind (traced_targetOf name _) fun _ => Traced.pure _
    · exact Traced.bind (Traced.pure _) hids
  · -- a service: its operations and resources
    exact Traced.bind (traced_targetsOf name _ _) fun _ => Traced.bind (traced_targetsOf name _ _) fun _ =>
      Traced.pure _
  · exact Traced.pure _

theorem traced_loadMember (loc : Locator) (container : ShapeId) (member : String) (definition : Node)
    (offset : Nat) : Traced (VisitorCall.OfDocument loc.filename text) (loadMember loc container member definition offset) := by
  unfold loadMember
  refine Traced.bind (Traced.ask_fileState fun _ => rfl) fun id => ?_
  refine Traced.bind (Traced.objectOf _ _) fun es => ?_
  exact Traced.bind (traced_targetOf _ _) fun _ =>
    Traced.bind (traced_applyTraits _ _ (loc.key_filename _ _)) fun _ => Traced.pure _

theorem traced_requiredMember {C : VisitorCall → Prop} (es : List (String × Node)) (member what : String) :
    Traced C (requiredMember es member what) := by
  unfold requiredMember
  split
  · exact Traced.pure _
  · exact Traced.malformed _

theorem traced_shapeMembers (loc : Locator) (id : ShapeId) (t : ShapeType) (es : List (String × Node))
    (what : String) (offset : Nat) :
    Traced (VisitorCall.OfDocument loc.filename text) (shapeMembers loc id t es what offset) := by
  unfold shapeMembers
  split
  case h_1 | h_2 =>
    exact Traced.bind (traced_requiredMember _ _ _) fun _ => Traced.bind (traced_loadMember _ _ _ _ _)
      fun _ => Traced.pure _
  case h_3 =>
    exact Traced.bind (traced_requiredMember _ _ _) fun _ => Traced.bind (traced_loadMember _ _ _ _ _)
      fun _ => Traced.bind (traced_requiredMember _ _ _) fun _ => Traced.bind (traced_loadMember _ _ _ _ _)
      fun _ => Traced.pure _
  case h_4 | h_5 =>
    split
    · exact Traced.bind (Traced.objectOf _ _) fun ms => Traced.mapM fun x _ => traced_loadMember _ _ _ _ _
    · exact Traced.pure _
  case h_6 => exact Traced.pure _

/-- The end of a shape's load: its members, references and traits, and the
declaration, from the place of its key. -/
theorem traced_declare (loc : Locator) (id : ShapeId) (t : ShapeType) (es : List (String × Node))
    {b : Builder} (hbid : b.id = some id) (what : String) {key : String}
    (hs : b.source = (loc.key key 0).1) (offset : Nat) :
    Traced (VisitorCall.OfDocument loc.filename text) (do
      let members ← shapeMembers loc id t es what offset
      let refs ← shapeRefs t es
      applyTraits id (Node.lookup "traits" es) (loc.key key 0).1
      modify fun l => l.onShape { builder := b, refs, members }) :=
  have hsource := loc.key_filename key 0
  Traced.bind (traced_shapeMembers loc id t es what offset) fun ms =>
    Traced.bind (traced_shapeRefs _ t es) fun refs => Traced.bind (traced_applyTraits id _ hsource) fun _ =>
      Traced.modify (.shape { builder := b, refs, members := ms }) trivial
        ⟨show b.source.filename = _ by rw [hs]; exact hsource, by simp [PendingShape.id, hbid]⟩ fun _ => rfl

theorem traced_loadShape (loc : Locator) (key : String) (definition : Node) :
    Traced (VisitorCall.OfDocument loc.filename text) (loadShape loc key definition) := by
  unfold loadShape
  dsimp only
  refine Traced.bind (Traced.ask_fileState fun _ => rfl) fun id => ?_
  -- a member ID as the key stops the load
  by_cases hm : id.isMember = true
  · rw [if_pos hm]
    exact Traced.malformed_bind
  rw [if_neg hm]
  refine Traced.bind (Traced.step (fun F => ((({} : Loader).withFileState F).onNamespace id.ns).map
    Loader.fileState) fun l => ?_) fun _ => ?_
  · unfold Loader.onNamespace
    split <;> rfl
  have hsource := loc.key_filename key 0
  refine Traced.bind (Traced.objectOf _ _) fun es => ?_
  split
  · split
    · -- `apply` adds traits and declares nothing
      exact Traced.bind (traced_applyTraits id _ hsource) fun _ => Traced.pure _
    · split
      · refine Traced.bind (Traced.pure _) fun t => ?_
        split
        · exact Traced.malformed_bind
        · -- a fresh builder, with the `version` of a service
          split
          · split
            · split
              · exact traced_declare loc id t es rfl _ rfl _
              · exact Traced.malformed_bind
            · exact traced_declare loc id t es rfl _ rfl _
          · exact traced_declare loc id t es rfl _ rfl _
      · exact Traced.malformed _
  · exact Traced.malformed _

/-! ## §4. A load -/

/-- From every loader in the file state `F₀`, the step `x` either stops with the
loader as it was, or sets the version and makes the run of calls `cs`, ending
with the result `r` in the file state `F`. -/
def Versioned (F₀ : FileState) (cs : List VisitorCall) (r : Except LoadError Unit) (F : FileState)
    (x : LoadM Unit) : Prop :=
  ∀ l : Loader, l.fileState = F₀ → (∃ e, x.run.run l = (.error e, l)) ∨
    ∃ v, x.run.run l = (r, (VisitorCall.run cs { l with version := v }).withFileState F)

theorem versioned_malformed_bind {α : Type} {F₀ F : FileState} {cs : List VisitorCall}
    {r : Except LoadError Unit} {m : String} {k : α → LoadM Unit} : Versioned F₀ cs r F (ShapeKit.malformed m >>= k) :=
  fun l _ => .inl ⟨_, run_bind_error (run_malformed m l) k⟩

/-- The version step, then a traced step: the version step reads the loader's
version, but either stops or leaves the loader with some version and the same
file state. -/
theorem Traced.versioned {C : VisitorCall → Prop} {version : String} {k : Unit → LoadM Unit}
    (hk : Traced C (k ())) (F₀ : FileState) :
    ∃ cs r F, (∀ c ∈ cs, c.Declares ∧ C c) ∧ Versioned F₀ cs r F (ShapeKit.step (·.onVersion version) >>= k) := by
  obtain ⟨r, cs, F, hcs, hrun⟩ := hk F₀
  refine ⟨cs, r, F, hcs, fun l hl => ?_⟩
  cases hv : l.onVersion version with
  | error e => exact .inl ⟨e, run_bind_error (by rw [run_step, hv]) k⟩
  | ok l' =>
    obtain ⟨v, rfl⟩ : ∃ v, l' = { l with version := v } := by
      rcases Loader.onVersion_eq_ok hv with h | h
      · exact ⟨l.version, h⟩
      · exact ⟨_, h⟩
    exact .inr ⟨v, by rw [run_bind_ok (run_step_ok hv), hrun { l with version := v } hl]⟩

theorem exists_versioned_objectOf {P : List VisitorCall → Prop} (hP : P []) {F₀ : FileState} {n : Json.Node}
    {what : String} {f : List (String × Json.Node) → LoadM Unit}
    (hf : ∀ es, n = .obj es → ∃ cs r F, P cs ∧ Versioned F₀ cs r F (f es)) :
    ∃ cs r F, P cs ∧ Versioned F₀ cs r F (ShapeKit.objectOf n what >>= f) := by
  unfold ShapeKit.objectOf
  split
  · next es => exact (pure_bind es f).symm ▸ hf es rfl
  · exact ⟨[], .ok (), F₀, hP, versioned_malformed_bind⟩

/-- Opening the file, then a versioned step from the file state of a new file. -/
theorem exists_versioned_openFile {P : List VisitorCall → Prop} {name : String} {k : Unit → LoadM Unit}
    (hk : ∃ cs r F, P cs ∧ Versioned ⟨name, none, []⟩ cs r F (k ())) :
    ∃ cs r F, P cs ∧ ∀ l : Loader,
      (∃ e, (modify (·.openFile name) >>= k).run.run l = (.error e, l.openFile name)) ∨
      ∃ v, (modify (·.openFile name) >>= k).run.run l =
        (r, (VisitorCall.run cs { l.openFile name with version := v }).withFileState F) := by
  obtain ⟨cs, r, F, hP, hk⟩ := hk
  refine ⟨cs, r, F, hP, fun l => ?_⟩
  rw [run_bind_ok (run_modify _ l)]
  exact hk _ rfl

end LoadM

namespace Loader

open LoadM

/-- **A load is its version step and a run of declaring calls fixed by the
document.** Whatever the loader, loading `text` under `name` either stops
before it passes the version step, having at most opened the file, or opens
the file, sets some version and makes one run of calls of the document, the
same from every loader, ending with the same result and file state. -/
theorem load_trace (name text : String) : ∃ cs r F, (∀ c ∈ cs, c.Declares ∧ c.OfDocument name text) ∧
    ∀ l : Loader, (∃ e, l.load name text = (l, some e)) ∨ (∃ e, l.load name text = (l.openFile name, some e)) ∨
      ∃ v, l.load name text = ((VisitorCall.run cs { l.openFile name with version := v }).withFileState F, r) := by
  unfold Loader.load loadDocument
  extract_lets loc finish
  -- past reading the text, the load opens the file, and from the file state of
  -- a new file it either stops at the version or makes one run of calls
  have hfinish : ∀ root, read text = .ok root → ∃ cs r F, (∀ c ∈ cs, c.Declares ∧ c.OfDocument name text) ∧
      ∀ l : Loader, (∃ e, (finish root).run.run l = (.error e, l.openFile name)) ∨
        ∃ v, (finish root).run.run l = (r, (VisitorCall.run cs { l.openFile name with version := v }).withFileState F) := by
    intro root hread
    simp -zeta only [finish]
    refine exists_versioned_openFile (exists_versioned_objectOf (by simp) fun es hes => ?_)
    -- the parts after the version, from the last one read to the first
    extract_lets declareAll putMetadata useAll
    have hshapes : ∀ u, Traced (VisitorCall.OfDocument name text) (declareAll u) := by
      intro u
      simp -zeta only [declareAll]
      split
      · refine Traced.bind (Traced.objectOf _ _) fun ds => Traced.bind (Traced.forIn fun x _ _ => ?_) fun _ =>
          Traced.pure _
        exact Traced.bind (traced_loadShape loc x.1 x.2) fun _ => Traced.pure _
      · exact Traced.pure _
    have hmetadata : ∀ u, Traced (VisitorCall.OfDocument name text) (putMetadata u) := by
      intro u
      simp -zeta only [putMetadata]
      split
      · next metadata hmd =>
        refine Traced.objectOf_bind fun ms hms => Traced.bind (Traced.forIn fun x hx _ => ?_) fun _ => hshapes ()
        -- each entry is under a key of the document's `metadata` object
        have hkey : x.1 ∈ metadataKeys text := by
          rw [metadataKeys, hread, hes]
          simp only [hmd, hms]
          exact List.mem_map_of_mem hx
        exact Traced.bind (Traced.modify (.metadata x.1 x.2 (loc.key x.1 0).1) trivial ⟨hkey, rfl⟩ fun _ => rfl)
          fun _ => Traced.pure _
      · exact hshapes ()
    have huses : ∀ u, Traced (VisitorCall.OfDocument name text) (useAll u) := by
      intro u
      simp -zeta only [useAll]
      split
      · refine Traced.bind (Traced.arrayOf _ _) fun _ =>
          Traced.bind (Traced.forIn fun _ _ _ => ?_) fun _ => hmetadata ()
        split
        · -- an imported ID is parsed, and becomes an alias of the file
          refine Traced.bind (Traced.ask_fileState fun _ => rfl) fun id => Traced.bind (Traced.step
            (fun F => ((({} : Loader).withFileState F).onUse id).map Loader.fileState) fun l => ?_) fun _ =>
              Traced.pure _
          unfold Loader.onUse
          rw [show l.aliases = (({} : Loader).withFileState l.fileState).aliases from rfl]
          split
          · split <;> rfl
          · rfl
        · exact Traced.malformed_bind
      · exact hmetadata ()
    split
    · exact Traced.versioned (huses ()) _
    · exact ⟨[], .ok (), ⟨name, none, []⟩, by simp, versioned_malformed_bind⟩
    · exact Traced.versioned (huses ()) _
  cases hread : read text with
  | error e => exact ⟨[], none, ⟨"", none, []⟩, by simp, fun l => .inl ⟨.json name e, rfl⟩⟩
  | ok root =>
    obtain ⟨cs, r, F, hcs, hrun⟩ := hfinish root hread
    refine ⟨cs, match r with | .ok () => none | .error e => some e, F, hcs, fun l => ?_⟩
    simp only [pure_bind]
    rcases hrun l with ⟨e, he⟩ | ⟨v, hv⟩
    · exact .inr (.inl ⟨e, by rw [he]⟩)
    · refine .inr (.inr ⟨v, ?_⟩)
      rw [hv]
      cases r <;> rfl

end Loader

end ShapeKit
