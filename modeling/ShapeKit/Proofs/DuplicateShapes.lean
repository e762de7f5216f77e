import ShapeKit.Proofs.TidyLoads
import ShapeKit.Proofs.FinishTraits

/-!
# Shapes declared more than once

One shape ID may be declared many times: by several files, by built shapes and
by added models. `finish` builds every declaration once its references are
resolved and its traits applied, keeps the first build of each ID, and reports
the others.

  * Every call of the visitor interface keeps the declarations of a loader
    under their own IDs, in ID order, and none under a prelude ID the prelude
    gives (`Loader.Recorded`, `VisitorCall.run_recorded`).
  * Finishing changes each declaration in place (`DeclsInPlace`): the same IDs
    in the same order, one declaration for each one recorded.
  * `buildShapes` keeps, for each ID, the first declaration that builds
    (`Loader.firstBuild`), and each declaration adds the event
    `Loader.definitionEvent` gives it against the first build among the
    declarations before it: a failed build is one error, a build unequal to the
    kept one is one error naming both places, anything else adds nothing
    (`Loader.buildShapes_spec`).
  * The finished model holds under each declared top-level ID that first build,
    and no shape when none builds (`Model.get?_insertShapes_of_top`).

`VisitorCall.run_keeps_first_build` puts them together.
-/

namespace ShapeKit

open Json

/-! ## §1. What each declaration adds -/

namespace Loader

/-- The first declaration of a run that builds, built. -/
def firstBuild (ps : List PendingShape) : Option Shape := ps.findSome? fun p => p.build.toOption

@[simp] theorem firstBuild_nil : firstBuild [] = none := rfl

theorem firstBuild_append (ps qs : List PendingShape) :
    firstBuild (ps ++ qs) = (firstBuild ps).or (firstBuild qs) := by
  simp only [firstBuild, List.findSome?_append]

theorem firstBuild_singleton (p : PendingShape) : firstBuild [p] = p.build.toOption := by
  simp only [firstBuild, List.findSome?_cons, List.findSome?_nil]
  cases p.build.toOption <;> rfl

/-- The event one more declaration of `id` adds, given the first build among
the declarations before it: an error for a declaration that does not build,
and for one that builds to a shape unequal to that first build; nothing for
the first build or one equal to it. -/
def definitionEvent (id : ShapeId) (first : Option Shape) (p : PendingShape) : Option Event :=
  match p.build, first with
  | .error e, _ => some { modelEvent e.message p.source with shapeId := some id }
  | .ok s, some f =>
    if f.equal s then none
    else some { modelEvent
      s!"Duplicate shape definition for `{id.text}` found at `{f.source.text}` and `{p.source.text}`"
      p.source with shapeId := some id }
  | .ok _, none => none

/-- A declaration adds no event exactly when it builds, to a shape equal to the
first build before it if there is one. -/
theorem definitionEvent_eq_none_iff {id : ShapeId} {first : Option Shape} {p : PendingShape} :
    definitionEvent id first p = none ↔ ∃ s, p.build = .ok s ∧ ∀ f, first = some f → f.equal s = true := by
  unfold definitionEvent
  split
  · simp_all
  · next s f hb =>
    by_cases hfs : f.equal s <;> simp [hb, hfs]
  · next s hb => simp [hb]

/-- Every event a declaration adds is an error on its ID, at its place. -/
theorem definitionEvent_eq_some {id : ShapeId} {first : Option Shape} {p : PendingShape} {ev : Event}
    (h : definitionEvent id first p = some ev) :
    ev.severity = .error ∧ ev.shapeId = some id ∧ ev.source = p.source := by
  unfold definitionEvent at h
  split at h
  · cases h
    exact ⟨rfl, rfl, rfl⟩
  · split at h
    · cases h
    · cases h
      exact ⟨rfl, rfl, rfl⟩
  · cases h

/-- The events the declarations `ps` of `id` add after the declarations `past`,
each against the first build before it. -/
def definitionEvents (id : ShapeId) (past : List PendingShape) : List PendingShape → List Event
  | [] => []
  | p :: rest => (definitionEvent id (firstBuild past) p).toList ++ definitionEvents id (past ++ [p]) rest

theorem buildStep_eq (id : ShapeId) (acc : Option Shape × List Event) (p : PendingShape) :
    buildStep id acc p = (acc.1.or p.build.toOption, acc.2 ++ (definitionEvent id acc.1 p).toList) := by
  obtain ⟨kept, events⟩ := acc
  unfold buildStep definitionEvent
  cases p.build with
  | error e => cases kept <;> rfl
  | ok s =>
    cases kept with
    | none => simp [Except.toOption]
    | some f => by_cases hfs : f.equal s <;> simp [hfs]

/-- Building the declarations of one ID keeps the first build and adds the
event of each declaration. -/
theorem foldl_buildStep_eq (id : ShapeId) (past ps : List PendingShape) (events : List Event) :
    ps.foldl (buildStep id) (firstBuild past, events) =
      (firstBuild (past ++ ps), events ++ definitionEvents id past ps) := by
  induction ps generalizing past events with
  | nil => simp [definitionEvents]
  | cons p rest ih =>
    rw [List.foldl_cons, buildStep_eq, ← firstBuild_singleton, ← firstBuild_append, ih,
      List.append_assoc, List.append_assoc, definitionEvents]
    rfl

/-- **What `buildShapes` gives**: the first build of each ID, in ID order, and
after the events found before, the event of each declaration. -/
theorem buildShapes_spec (l : Loader) : l.buildShapes =
    (l.shapes.filterMap fun e => firstBuild e.2,
      l.events ++ l.shapes.flatMap fun e => definitionEvents e.1 [] e.2) := by
  rw [buildShapes_eq]
  suffices ∀ (es : List (ShapeId × List PendingShape)) (acc : List Shape × List Event),
      es.foldl buildEntries acc = (acc.1 ++ es.filterMap fun e => firstBuild e.2,
        acc.2 ++ es.flatMap fun e => definitionEvents e.1 [] e.2) by
    simpa using this l.shapes ([], l.events)
  intro es
  induction es with
  | nil => simp
  | cons e rest ih =>
    intro acc
    have hstep := foldl_buildStep_eq e.1 [] e.2 acc.2
    rw [firstBuild_nil, List.nil_append] at hstep
    rw [List.foldl_cons, ih, buildEntries, hstep]
    cases hfirst : firstBuild e.2 <;> simp [hfirst]

end Loader

/-! ## §2. Declarations under their IDs -/

/-- Declarations kept under their IDs in ID order, each declaring the ID it is
kept under. -/
structure KeyedDecls (shapes : List (ShapeId × List PendingShape)) : Prop where
  sorted : Keyed.Sorted ShapeId.compare Prod.fst shapes
  ids : ∀ e ∈ shapes, ∀ p ∈ e.2, p.id = some e.1

namespace Loader

variable {l : Loader}

/-- A loader as visitor calls leave it: its declarations kept under their IDs,
none under the ID of a prelude shape the prelude already gives. -/
structure Recorded (l : Loader) : Prop where
  decls : KeyedDecls l.shapes
  not_prelude : ∀ e ∈ l.shapes, ¬(l.includePrelude = true ∧ isPreludeShape e.1 = true)

/-- A step that leaves the declarations and the prelude option keeps a loader
recorded. -/
theorem Recorded.of_frame (hl : l.Recorded) {l' : Loader} (hs : l'.shapes = l.shapes)
    (hp : l'.includePrelude = l.includePrelude) : l'.Recorded where
  decls := hs ▸ hl.decls
  not_prelude e he := hp ▸ hl.not_prelude e (hs ▸ he)

theorem Recorded.of_sameDecls (hl : l.Recorded) {l' : Loader} (h : l.SameDecls l') : l'.Recorded :=
  hl.of_frame h.shapes h.includePrelude

theorem Recorded.of_empty (hs : l.shapes = []) : l.Recorded where
  decls := hs ▸ ⟨List.Pairwise.nil, fun _ h => by cases h⟩
  not_prelude _ h := by rw [hs] at h; cases h

/-- Declaring any shape keeps a loader recorded. -/
theorem Recorded.onShape (hl : l.Recorded) (p : PendingShape) : (l.onShape p).Recorded := by
  rcases onShape_sameDecls_or_put l p with h | ⟨id, hid, hpre, heq⟩
  · exact hl.of_sameDecls h
  · rw [heq]
    refine ⟨⟨?_, putById_entries (Q := fun k q => q.id = some k) hl.decls.ids hid⟩,
      putById_keys (P := fun k => ¬(l.includePrelude = true ∧ isPreludeShape k = true)) hl.not_prelude hpre _⟩
    rw [putById_eq]
    exact hl.decls.sorted.put _

theorem Recorded.onMetadata (hl : l.Recorded) (key : String) (value : Node) (source : SourceLocation) :
    (l.onMetadata key value source).Recorded := by
  refine hl.of_frame ?_ ?_
  all_goals
    unfold Loader.onMetadata
    split
    · rfl
    · split
      · rfl
      · split <;> rfl

/-- Being recorded is kept by loads. -/
theorem recorded_loadInvariant : LoadInvariant Loader.Recorded where
  frame hl h := hl.of_sameDecls h
  onMetadata hl := hl.onMetadata
  onShape hl _ _ := hl.onShape _

end Loader

/-- One call of the loader's visitor interface. A call that fails leaves the
loader as it was. -/
inductive VisitorCall where
  | openFile (name : String)
  | version (version : String)
  | namespace (ns : String)
  | use (id : ShapeId)
  | shape (p : PendingShape)
  | builtShape (s : Shape)
  | trait (target : ShapeId) (name : ShapeReference) (value : Node) (source : SourceLocation)
  | metadata (key : String) (value : Node) (source : SourceLocation)
  | error (e : Event)
  /-- A JSON AST load, which keeps what it reached when it stops. -/
  | load (name text : String)

namespace VisitorCall

/-- A call that can fail, or the loader as it was. -/
def orKeep (l : Loader) : Except LoadError Loader → Loader
  | .ok l' => l'
  | .error _ => l

/-- The loader after one call. -/
def apply : VisitorCall → Loader → Loader
  | .openFile name, l => l.openFile name
  | .version v, l => orKeep l (l.onVersion v)
  | .namespace ns, l => orKeep l (l.onNamespace ns)
  | .use id, l => orKeep l (l.onUse id)
  | .shape p, l => l.onShape p
  | .builtShape s, l => l.onBuiltShape s
  | .trait target name value source, l => l.onTrait target name value source
  | .metadata key value source, l => l.onMetadata key value source
  | .error e, l => l.onError e
  | .load name text, l => (l.load name text).1

/-- The loader after a run of calls. -/
def run (calls : List VisitorCall) (l : Loader) : Loader := calls.foldl (fun l c => c.apply l) l

theorem orKeep_sameDecls {l : Loader} {r : Except LoadError Loader}
    (h : ∀ l', r = .ok l' → l.SameDecls l') : l.SameDecls (orKeep l r) := by
  cases r with
  | ok l' => exact h l' rfl
  | error _ => exact ⟨rfl, rfl, rfl, rfl⟩

/-- Every call keeps a loader recorded. -/
theorem apply_recorded (c : VisitorCall) {l : Loader} (hl : l.Recorded) : (c.apply l).Recorded := by
  cases c with
  | openFile name => exact Loader.recorded_loadInvariant.openFile hl name
  | version v => exact hl.of_sameDecls (orKeep_sameDecls fun _ => Loader.onVersion_sameDecls)
  | «namespace» ns => exact hl.of_sameDecls (orKeep_sameDecls fun _ => Loader.onNamespace_sameDecls)
  | use id => exact hl.of_sameDecls (orKeep_sameDecls fun _ => Loader.onUse_sameDecls)
  | shape p => exact hl.onShape p
  | builtShape s =>
    show (l.onBuiltShape s).Recorded
    unfold Loader.onBuiltShape
    split
    · exact hl
    · exact hl.onShape _
  | trait target name value source => exact Loader.recorded_loadInvariant.onTrait hl target name value source
  | metadata key value source => exact hl.onMetadata key value source
  | error e => exact hl.of_sameDecls ⟨rfl, rfl, rfl, rfl⟩
  | load name text => exact Loader.recorded_loadInvariant.load hl name text

/-- **Every run of calls keeps a loader recorded.** -/
theorem run_recorded (calls : List VisitorCall) {l : Loader} (hl : l.Recorded) : (run calls l).Recorded := by
  induction calls generalizing l with
  | nil => exact hl
  | cons c rest ih => exact ih (c.apply_recorded hl)

end VisitorCall

/-! ## §3. Finishing changes declarations in place -/

/-- What the keys of a declaration table say: the IDs in order, and under
each the ID each declaration declares. -/
def declIds (shapes : List (ShapeId × List PendingShape)) : List (ShapeId × List (Option ShapeId)) :=
  shapes.map fun e => (e.1, e.2.map (·.id))

/-- `shapes'` holds the declarations of `shapes` changed in place: the same IDs
in the same order, and under each as many declarations, each declaring the ID
of the one it replaces. -/
def DeclsInPlace (shapes shapes' : List (ShapeId × List PendingShape)) : Prop :=
  declIds shapes' = declIds shapes

theorem DeclsInPlace.keys {shapes shapes' : List (ShapeId × List PendingShape)}
    (h : DeclsInPlace shapes shapes') : shapes'.map Prod.fst = shapes.map Prod.fst := by
  have hk := congrArg (List.map Prod.fst) h
  simpa only [declIds, List.map_map, Function.comp_def] using hk

/-- Declarations changed in place stay keyed by their IDs. -/
theorem KeyedDecls.inPlace {shapes shapes' : List (ShapeId × List PendingShape)} (hk : KeyedDecls shapes)
    (h : DeclsInPlace shapes shapes') : KeyedDecls shapes' where
  sorted := by
    have hkeys : (shapes.map Prod.fst).Pairwise fun a b => ShapeId.compare a b = .lt :=
      List.pairwise_map.mpr hk.sorted
    rw [← h.keys] at hkeys
    exact List.pairwise_map.mp hkeys
  ids e' he' p' hp' := by
    -- the declaration `p'` replaces has its ID, and is kept under the same key
    have hmem : (e'.1, e'.2.map (·.id)) ∈ declIds shapes := h ▸ List.mem_map_of_mem he'
    obtain ⟨e, he, hkey⟩ := List.mem_map.mp hmem
    simp only [Prod.mk.injEq] at hkey
    obtain ⟨p, hp, hid⟩ := List.mem_map.mp (hkey.2 ▸ List.mem_map_of_mem hp' : p'.id ∈ e.2.map (·.id))
    rw [← hid, hk.ids e he p hp, hkey.1]

theorem declIds_map {shapes : List (ShapeId × List PendingShape)}
    {g : ShapeId × List PendingShape → ShapeId × List PendingShape}
    (hg : ∀ e ∈ shapes, (g e).1 = e.1 ∧ (g e).2.map (·.id) = e.2.map (·.id)) :
    DeclsInPlace shapes (shapes.map g) := by
  unfold DeclsInPlace declIds
  rw [List.map_map]
  refine List.map_congr_left fun e he => ?_
  simp [hg e he]

namespace Loader

theorem resolved_inPlace (l : Loader) : DeclsInPlace l.shapes l.resolved.shapes :=
  declIds_map fun e _ => ⟨rfl, by simp [PendingShape.resolve, PendingShape.id]⟩

@[simp] theorem mergeInto_id (b : Builder) (t : Trait) : (mergeInto b t).1.id = b.id := by
  unfold mergeInto
  split
  · rfl
  · split <;> rfl

@[simp] theorem applyStep_id (target : ShapeId) (t : Trait) (p : PendingShape) :
    (applyStep target t p).1.id = p.id := by
  unfold applyStep
  split
  · split <;> rfl
  · simp [PendingShape.id]

theorem applyTrait_shapes (l : Loader) (target : ShapeId) (t : Trait) :
    (l.applyTrait target t).shapes = match l.shapes.lookup target.withoutMember with
      | none => l.shapes
      | some entries => putById l.shapes target.withoutMember ((entries.map (applyStep target t)).map (·.1)) := by
  cases hlook : l.shapes.lookup target.withoutMember with
  | none => simp only [applyTrait, hlook]
  | some entries =>
    simp only [applyTrait, hlook]
    split <;> rfl

/-- Applying a trait changes the declarations of its target's container in place. -/
theorem applyTrait_inPlace {l : Loader} (hl : KeyedDecls l.shapes) (target : ShapeId) (t : Trait) :
    DeclsInPlace l.shapes (l.applyTrait target t).shapes := by
  rw [applyTrait_shapes]
  split
  · rfl
  · next entries hlook =>
    have hmem := mem_of_lookup_eq_some hlook
    rw [putById_eq, hl.sorted.put_eq_map (x := (target.withoutMember, (entries.map (applyStep target t)).map (·.1))) hmem rfl]
    refine declIds_map fun e he => ?_
    dsimp only
    split
    · next hkey =>
      -- the entry replaced is the one looked up
      have he' : e = (target.withoutMember, entries) := by
        have h := hl.sorted.lookup_of_mem he
        rw [hkey, hlook, Option.some.injEq] at h
        exact Prod.ext hkey h.symm
      subst he'
      simp [Function.comp_def]
    · exact ⟨rfl, rfl⟩

theorem applyRow_inPlace {l : Loader} (hl : KeyedDecls l.shapes) (target : ShapeId)
    (row : List (ShapeId × Node × SourceLocation)) : DeclsInPlace l.shapes (l.applyRow target row).shapes := by
  induction row generalizing l with
  | nil => rfl
  | cons x rest ih =>
    -- each value either applies in place or is an event
    have hstep : DeclsInPlace l.shapes (l.applyRow target [x]).shapes := by
      simp only [applyRow, List.foldl_cons, List.foldl_nil]
      split
      · exact applyTrait_inPlace hl target _
      · rfl
    exact (ih (hl.inPlace hstep)).trans hstep

theorem foldl_applyRow_inPlace {l : Loader} (hl : KeyedDecls l.shapes) (table : TraitTable) :
    DeclsInPlace l.shapes (table.foldl (fun l (target, row) => l.applyRow target row) l).shapes := by
  induction table generalizing l with
  | nil => rfl
  | cons x rest ih =>
    have hrow := applyRow_inPlace hl x.1 x.2
    exact (ih (hl.inPlace hrow)).trans hrow

/-- **Finishing changes every declaration in place.** -/
theorem finalized_inPlace {l : Loader} (hl : KeyedDecls l.shapes) : DeclsInPlace l.shapes l.finalized.shapes := by
  have hres := l.resolved_inPlace
  rw [finalized, finalizeTraits_eq]
  dsimp only
  exact Eq.trans (foldl_applyRow_inPlace (l := { l.resolved with traits := [], events := _ }) (hl.inPlace hres) _) hres

end Loader

/-! ## §4. The finished model at top-level IDs -/

namespace Model

/-- Every member of every shape of a list sits under that shape's ID. -/
def MembersWithin (ss : List Shape) : Prop := ∀ S ∈ ss, ∀ x ∈ S.memberShapes, x.id.withoutMember = S.id

theorem mem_foldl_putShape {ss l : List Shape} {x : Shape} (h : x ∈ ss.foldl putShape l) : x ∈ ss ∨ x ∈ l := by
  induction ss generalizing l with
  | nil => exact .inr h
  | cons s rest ih =>
    rcases ih h with h | h
    · exact .inl (List.mem_cons_of_mem s h)
    · rcases mem_putShape h with rfl | h
      · exact .inl List.mem_cons_self
      · exact .inr h

theorem mem_addModel {m o : Model} {x : Shape} (h : x ∈ (m.addModel o).shapes) : x ∈ o.shapes ∨ x ∈ m.shapes :=
  mem_foldl_putShape h

/-- A member shape has no members. -/
theorem memberShapes_of_mem_memberShapes {s x : Shape} (hx : x ∈ s.memberShapes) : x.memberShapes = [] := by
  obtain ⟨m, -, rfl⟩ := List.mem_map.mp hx
  rfl

theorem MembersWithin.insertShape {m : Model} (hm : MembersWithin m.shapes) {s : Shape}
    (hs : ∀ x ∈ s.memberShapes, x.id.withoutMember = s.id) : MembersWithin (m.insertShape s).shapes := by
  intro S hS x hx
  rw [insertShape_shapes] at hS
  rcases mem_putShape hS with rfl | hS
  · exact hs x hx
  · rcases mem_foldl_putShape hS with hS | hS
    · rw [memberShapes_of_mem_memberShapes hS] at hx
      cases hx
    · exact hm S (List.mem_filter.mp hS).1 x hx

/-- Putting a shape whose members sit under its ID leaves every other
top-level ID alone. -/
theorem get?_insertShape_of_top {m : Model} (hm : MembersWithin m.shapes) {s : Shape}
    (hs : ∀ x ∈ s.memberShapes, x.id.withoutMember = s.id) {k : ShapeId} (hk : k.isMember = false) :
    (m.insertShape s).get? k = if s.id = k then some s else m.get? k := by
  have hkw : k.withoutMember = k := ShapeId.withoutMember_eq_self hk
  unfold get?
  rw [insertShape_shapes, find?_putShape]
  split
  · rfl
  · next hne =>
    -- no member of the new shape, nor of the shape it replaces, has the ID `k`
    have hmem : s.memberShapes.reverse.find? (·.id == k) = none := by
      rw [List.find?_eq_none]
      intro x hx hxk
      have hw := hs x (List.mem_reverse.mp hx)
      rw [beq_iff_eq.mp hxk, hkw] at hw
      exact hne hw.symm
    have hstale : k ∉ m.staleIds s := by
      unfold staleIds
      split
      · next prev hprev =>
        intro hk'
        obtain ⟨x, hx, rfl⟩ := List.mem_map.mp hk'
        have hw := hm prev (List.mem_of_find?_eq_some hprev) x hx
        rw [hkw, id_of_get? hprev] at hw
        exact hne hw.symm
      · simp
    rw [find?_foldl_putShape, hmem, Option.none_or,
      find?_filter_id _ (fun i => !(m.staleIds s).contains i)]
    simp [hstale]

/-- **Putting shapes, at a top-level ID**: the last shape put under it, else
what was there. -/
theorem get?_insertShapes_of_top {m : Model} (hm : MembersWithin m.shapes) {ss : List Shape}
    (hss : ∀ s ∈ ss, ∀ x ∈ s.memberShapes, x.id.withoutMember = s.id) {k : ShapeId} (hk : k.isMember = false) :
    (m.insertShapes ss).get? k = (ss.reverse.find? (·.id == k)).or (m.get? k) := by
  induction ss generalizing m with
  | nil => rfl
  | cons s rest ih =>
    have hs := hss s List.mem_cons_self
    show ((m.insertShape s).insertShapes rest).get? k = _
    rw [ih (hm.insertShape hs) fun x hx => hss x (List.mem_cons_of_mem s hx),
      get?_insertShape_of_top hm hs hk, List.reverse_cons, List.find?_append]
    by_cases h : s.id = k <;> simp [h]

end Model

/-- A build sits under the ID of its builder, with its members under its ID. -/
theorem Builder.build_ids {b : Builder} {s : Shape} (h : b.build = .ok s) :
    b.id = some s.id ∧ ∀ x ∈ s.memberShapes, x.id.withoutMember = s.id := by
  obtain ⟨-, id, hid, -, hmembers, body, hbody, rfl⟩ := build_eq_ok.mp h
  refine ⟨hid, fun x hx => ?_⟩
  -- the members of the shape are some of those collected, each checked
  obtain ⟨-, -, sub, hsub, hbm, -, -⟩ := bodyFor_spec hbody
  rw [Shape.memberShapes_eq] at hx
  simp only [hbm, List.map_map, List.mem_map, Function.comp_apply] at hx
  obtain ⟨y, hy, rfl⟩ := hx
  exact (checkMember_eq_ok.mp (hmembers y (hsub y hy))).2.1

theorem foldlM_pushMember_id {ms : List PendingMember} {b b' : Builder}
    (h : ms.foldlM (fun b m => do return b.pushMember (← m.builder.build)) b = .ok b') : b'.id = b.id := by
  induction ms generalizing b with
  | nil =>
    simp only [List.foldlM_nil, Except.pure_eq_ok] at h
    rw [h]
  | cons m rest ih =>
    simp only [List.foldlM_cons, Except.bind_eq_ok, Except.pure_eq_ok] at h
    obtain ⟨b₁, ⟨s, -, rfl⟩, hrest⟩ := h
    rw [ih hrest, Builder.pushMember_id]

/-- A declaration builds to a shape of its own ID, with its members under that ID. -/
theorem PendingShape.build_ids {p : PendingShape} {s : Shape} (h : p.build = .ok s) :
    p.id = some s.id ∧ ∀ x ∈ s.memberShapes, x.id.withoutMember = s.id := by
  unfold PendingShape.build at h
  obtain ⟨b, hfold, hbuild⟩ := Except.bind_eq_ok.mp h
  obtain ⟨hid, hmembers⟩ := Builder.build_ids hbuild
  exact ⟨(foldlM_pushMember_id hfold).symm.trans hid, hmembers⟩

namespace Loader

theorem firstBuild_eq_some {ps : List PendingShape} {s : Shape} (h : firstBuild ps = some s) :
    ∃ p ∈ ps, p.build = .ok s := by
  obtain ⟨p, hp, hs⟩ := List.exists_of_findSome?_eq_some h
  refine ⟨p, hp, ?_⟩
  cases hb : p.build <;> simp_all [Except.toOption]

/-- The prelude, put into an empty model, keeps the members of its shapes under
their IDs: every prelude shape is well formed. -/
theorem preludeBase_membersWithin : Model.MembersWithin (({} : Model).addModel prelude).shapes := by
  intro S hS x hx
  have hS' : S ∈ prelude.shapes := by
    rcases Model.mem_addModel hS with hS | hS
    · exact hS
    · cases hS
  have hget : prelude.get? S.id = some S :=
    (Model.find?_key_eq_some_iff prelude_consistent.1.sorted.ids_nodup).mpr ⟨hS', rfl⟩
  exact ((prelude_consistent.1.wellFormed hget).member_id x hx).2

/-- The model `finish` starts from keeps the members of its shapes under their IDs. -/
theorem baseModel_membersWithin (l : Loader) : Model.MembersWithin l.baseModel.shapes := by
  unfold baseModel
  split
  · exact preludeBase_membersWithin
  · intro S hS
    cases hS

/-- In keyed declarations, the first build of an ID's declarations has that ID. -/
theorem firstBuild_id {es : List (ShapeId × List PendingShape)} (hk : KeyedDecls es)
    {e : ShapeId × List PendingShape} (he : e ∈ es) {s : Shape} (hs : firstBuild e.2 = some s) : s.id = e.1 := by
  obtain ⟨p, hp, hb⟩ := firstBuild_eq_some hs
  exact Option.some.inj ((PendingShape.build_ids hb).1.symm.trans (hk.ids e he p hp))

/-- In keyed declarations, the first builds of the IDs are in ID order. -/
theorem idSorted_firstBuilds {es : List (ShapeId × List PendingShape)} (hk : KeyedDecls es) :
    Model.IdSorted (es.filterMap fun e => firstBuild e.2) := by
  unfold Model.IdSorted
  rw [List.pairwise_filterMap]
  refine hk.sorted.imp_of_mem fun ha ha' hlt s hs s' hs' => ?_
  rw [firstBuild_id hk ha hs, firstBuild_id hk ha' hs']
  exact hlt

/-- In keyed declarations, the first builds of the IDs put in order hold, under
each ID, the first build of its declarations. -/
theorem find?_firstBuilds {es : List (ShapeId × List PendingShape)} (hk : KeyedDecls es) (k : ShapeId) :
    (es.filterMap fun e => firstBuild e.2).find? (·.id == k) = (es.lookup k).bind firstBuild := by
  induction es with
  | nil => rfl
  | cons e rest ih =>
    obtain ⟨he, hrest⟩ := List.pairwise_cons.mp hk.sorted
    have ih' := ih ⟨hrest, fun x hx => hk.ids x (List.mem_cons_of_mem e hx)⟩
    -- a build of `e` has the ID of `e`, which no later entry has
    have hid : ∀ s, firstBuild e.2 = some s → s.id = e.1 := fun s hs => firstBuild_id hk List.mem_cons_self hs
    have hfresh : e.1 = k → rest.lookup k = none := fun hek =>
      Keyed.lookup_eq_none_iff.mpr fun x hx hxk => by
        have hlt := he x hx
        rw [hxk, ← hek, (Std.ReflCmp.compare_self : ShapeId.compare e.1 e.1 = .eq)] at hlt
        cases hlt
    rw [List.filterMap_cons]
    by_cases hek : e.1 = k
    · have hlook : (e :: rest).lookup k = some e.2 := by simp [List.lookup, hek]
      rw [hlook, Option.bind_some]
      cases hb : firstBuild e.2 with
      | none => rw [ih', hfresh hek, Option.bind_none]
      | some s => simp [hid s hb, hek]
    · have hlook : (e :: rest).lookup k = rest.lookup k := by
        have hne : (k == e.1) = false := beq_false_of_ne (Ne.symm hek)
        simp [List.lookup, hne]
      rw [hlook, ← ih']
      cases hb : firstBuild e.2 with
      | none => rfl
      | some s => simp [hid s hb, hek]

/-- Finishing a recorded loader keeps its declarations off the IDs of the
prelude's shapes. -/
theorem Recorded.not_prelude_finalized {l : Loader} (hl : l.Recorded) {id : ShapeId} {ps : List PendingShape}
    (he : (id, ps) ∈ l.finalized.shapes) : ¬(l.includePrelude = true ∧ isPreludeShape id = true) := by
  have hkey : id ∈ l.shapes.map Prod.fst :=
    (finalized_inPlace hl.decls).keys ▸ List.mem_map_of_mem (f := Prod.fst) he
  obtain ⟨e, he', hek⟩ := List.mem_map.mp hkey
  rw [← hek]
  exact hl.not_prelude e he'

/-- On a recorded loader, the finished model holds under a declared top-level
ID the first of its finished declarations that builds, and nothing when none
builds. -/
theorem Recorded.get?_finish {l : Loader} (hl : l.Recorded) {id : ShapeId} {ps : List PendingShape}
    (he : (id, ps) ∈ l.finalized.shapes) (hid : id.isMember = false) :
    l.finish.model.get? id = firstBuild ps := by
  have hin := finalized_inPlace hl.decls
  have hk : KeyedDecls l.finalized.shapes := hl.decls.inPlace hin
  have hbuilt : ∀ s ∈ l.finalized.shapes.filterMap (fun e => firstBuild e.2),
      ∀ x ∈ s.memberShapes, x.id.withoutMember = s.id := by
    intro s hs
    obtain ⟨e, -, hes⟩ := List.mem_filterMap.mp hs
    obtain ⟨p, -, hb⟩ := firstBuild_eq_some hes
    exact (PendingShape.build_ids hb).2
  -- the model `finish` starts from holds nothing under a declared ID
  have hbase : l.baseModel.get? id = none :=
    baseModel_get?_eq_none l (by rw [ShapeId.withoutMember_eq_self hid]; exact hl.not_prelude_finalized he)
  rw [finish_get?, buildShapes_spec, Model.get?_insertShapes_of_top (baseModel_membersWithin l) hbuilt hid,
    Model.find?_reverse_of_nodup (idSorted_firstBuilds hk).ids_nodup, find?_firstBuilds hk, hk.sorted.lookup_of_mem he,
    Option.bind_some, hbase, Option.or_none]

/-! ## §5. Declarations after any run of calls -/

/-- What finishing makes of the declarations of `l`: it changes each in place;
the finished model holds under each declared top-level ID the first of its
finished declarations that builds, and no shape when none builds; and after
the events found before building, each declaration adds the one event, or
none, that `definitionEvent` gives it against the first build before it. -/
structure KeepsFirstBuild (l : Loader) : Prop where
  inPlace : DeclsInPlace l.shapes l.finalized.shapes
  kept : ∀ id ps, (id, ps) ∈ l.finalized.shapes → id.isMember = false →
    l.finish.model.get? id = firstBuild ps
  events : l.finish.events =
    l.finalized.events ++ l.finalized.shapes.flatMap fun e => definitionEvents e.1 [] e.2

theorem Recorded.keepsFirstBuild {l : Loader} (hl : l.Recorded) : l.KeepsFirstBuild where
  inPlace := finalized_inPlace hl.decls
  kept _ _ he hid := hl.get?_finish he hid
  events := by
    rw [finish_eq]
    exact congrArg Prod.snd l.finalized.buildShapes_spec

end Loader

namespace VisitorCall

/-- **Duplicate declarations.** After any run of visitor calls from a loader
with no declarations, finishing keeps, for each declared top-level ID, the
first declaration that builds once its traits are applied (no shape when none
builds), reports each declaration that does not build and each later build
unequal to the kept one with one error, and reports nothing else about them. -/
theorem run_keeps_first_build (l₀ : Loader) (h₀ : l₀.shapes = []) (calls : List VisitorCall) :
    (run calls l₀).KeepsFirstBuild :=
  (run_recorded calls (Loader.Recorded.of_empty h₀)).keepsFirstBuild

/-- A string shape declared twice from one place, once more from another, and
an integer shape under the same ID. -/
theorem run_keeps_first_build_repeats :
    ({} : Loader).shapes = [] ∧
      (run [.shape ⟨{ type := .string, id := some ⟨"ns", "S", none⟩, source := ⟨"a.json", 3, 1⟩ }, [], []⟩,
            .shape ⟨{ type := .string, id := some ⟨"ns", "S", none⟩, source := ⟨"a.json", 3, 1⟩ }, [], []⟩,
            .shape ⟨{ type := .string, id := some ⟨"ns", "S", none⟩, source := ⟨"b.json", 1, 1⟩ }, [], []⟩,
            .shape ⟨{ type := .integer, id := some ⟨"ns", "S", none⟩, source := ⟨"c.json", 1, 1⟩ }, [], []⟩]
        {}).KeepsFirstBuild :=
  ⟨rfl, run_keeps_first_build {} rfl _⟩

end VisitorCall

end ShapeKit
