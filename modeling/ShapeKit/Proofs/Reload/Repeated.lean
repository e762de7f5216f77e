import ShapeKit.Proofs.Reload.Growth

/-!
# Loading a document again

A document loaded a second time, after any other documents, makes the same
calls as the first time (`Loader.load_trace`). When the document was the first
to give what it gives, each of those calls finds its declaration already in
place, from its own place, and is skipped; only its trait applications are
added again, and finishing skips each of those too. So what the loader
finishes to, model and events, stays as it was (`Loader.load_again_finish`).

"First to give what it gives" is what the first load shows: every ID whose
declarations it changed had none before and has one after, none of the
document's metadata keys had a value before, and each trait application it
made is, when finishing, the first of its trait on its target. The file must
have a name: the places of an unnamed file are unknown places, which are never
the same place.

Without these conditions a second load can change the result: a metadata
array under a key whose first value came from another document is merged in
once more.

  §1. What a document's first load leaves: its declarations and metadata
      entries are held, from their places
  §2. Loading the document again
-/

namespace ShapeKit

open Json

/-! ## §1. What a first load leaves -/

theorem SourceLocation.isNone_eq_false {s : SourceLocation} {name : String} (hs : s.filename = name)
    (hname : name ≠ "") : s.isNone = false := by
  simpa [SourceLocation.isNone, hs] using hname

namespace Loader

variable {l : Loader}

/-- A declaration under an ID is a prelude shape the prelude gives, or its
ID's first declaration is from its place, or it is added at the end. -/
theorem onShape_of_id {p : PendingShape} {id : ShapeId} (hid : p.id = some id) :
    (l.includePrelude && isPreludeShape id) = true ∨
      (l.declarations id).head?.map PendingShape.source = some p.source ∨
      (l.onShape p).declarations id = l.declarations id ++ [p] := by
  by_cases hpre : (l.includePrelude && isPreludeShape id) = true
  · exact .inl hpre
  by_cases hhead : (l.declarations id).head?.map PendingShape.source = some p.source
  · exact .inr (.inl hhead)
  refine .inr (.inr ?_)
  have hput : ({ l with shapes := putById l.shapes id (l.declarations id ++ [p]) } : Loader).declarations id =
      l.declarations id ++ [p] := by
    show ((putById l.shapes id (l.declarations id ++ [p])).lookup id).getD [] = _
    rw [lookup_putById, if_pos rfl, Option.getD_some]
  unfold onShape
  simp only [hid, hpre, Bool.false_eq_true, if_false]
  rw [show (l.shapes.lookup id).getD [] = l.declarations id from rfl]
  split
  · next first hfirst =>
    -- the first declaration is from another place
    rw [if_neg, hput]
    intro h
    simp only [Bool.and_eq_true, Bool.not_eq_true', beq_iff_eq] at h
    exact hhead (by rw [hfirst, Option.map_some, h.2])
  · rw [if_neg Bool.false_ne_true, hput]

end Loader

namespace VisitorCall

open Loader

/-- What a call holds for keeps holding as the loader grows. -/
theorem HeldBy.grows {c : VisitorCall} {l l' : Loader} (h : c.HeldBy l) (hg : l.Grows l') : c.HeldBy l' := by
  cases c with
  | shape p =>
    obtain ⟨id, hid, hheld⟩ := h
    refine ⟨id, hid, ?_⟩
    rcases hheld with hpre | ⟨hfirst, hknown⟩
    · exact .inl (hg.includePrelude ▸ hpre)
    · exact .inr ⟨hg.head_source hfirst, hknown⟩
  | trait target name value source => trivial
  | metadata key value source =>
    obtain ⟨hfirst, hknown⟩ := h
    obtain ⟨⟨v, first⟩, hlookup, rfl⟩ := Option.map_eq_some_iff.mp hfirst
    obtain ⟨v', h'⟩ := hg.metadata key v first hlookup
    exact ⟨by rw [h']; rfl, hknown⟩
  | _ => exact h.elim

variable {cs : List VisitorCall} {A : Loader}

/-- After a run, a declaration it made is a prelude shape the prelude gives,
or the first declaration of its ID is from its place, or the run changed the
declarations of its ID from some to more, or to more than one. -/
theorem run_shape_first (hcs : ∀ c ∈ cs, c.Declares) {p : PendingShape} {id : ShapeId} (hp : shape p ∈ cs)
    (hid : p.id = some id) :
    ((run cs A).includePrelude && isPreludeShape id) = true ∨
      ((run cs A).declarations id).head?.map PendingShape.source = some p.source ∨
      ((run cs A).declarations id ≠ A.declarations id ∧
        (A.declarations id ≠ [] ∨ ∀ q, (run cs A).declarations id ≠ [q])) := by
  obtain ⟨pre, post, rfl⟩ := List.append_of_mem hp
  have hpre : ∀ c ∈ pre, c.Declares := fun c hc => hcs c (by simp [hc])
  have hpost : ∀ c ∈ post, c.Declares := fun c hc => hcs c (by simp [hc])
  -- the run goes through `X`, declares `p`, and goes on from `Y`
  set X := run pre A
  set Y := X.onShape p
  have hB : run (pre ++ shape p :: post) A = run post Y := by
    rw [run_append]
    rfl
  have hAX : A.Grows X := grows_run hpre A
  have hYB : Y.Grows (run post Y) := grows_run hpost Y
  have hXB : X.Grows (run post Y) := (X.grows_onShape p).trans hYB
  rw [hB]
  obtain ⟨more, hmore⟩ := hYB.declarations id
  rcases X.onShape_of_id hid with hprel | hhead | happ
  · exact .inl (hXB.includePrelude ▸ hprel)
  · exact .inr (.inl (hXB.head_source hhead))
  · rw [happ] at hmore
    cases hX : X.declarations id with
    | nil =>
      -- the declaration is the first of its ID
      refine .inr (.inl ?_)
      rw [← hmore, hX]
      rfl
    | cons e rest =>
      -- an earlier declaration of the ID was there: the run made more than one
      obtain ⟨before, hbefore⟩ := hAX.declarations id
      have hA : (A.declarations id).length ≤ rest.length + 1 := by
        have h := congrArg List.length hbefore
        rw [hX] at h
        simp only [List.length_append, List.length_cons] at h
        omega
      have hlen : ((run post Y).declarations id).length = rest.length + 2 + more.length := by
        rw [← hmore, hX]
        simp only [List.length_append, List.length_cons, List.length_nil]
      refine .inr (.inr ⟨fun h => ?_, .inr fun q hq => ?_⟩)
      · rw [h] at hlen
        omega
      · rw [hq] at hlen
        simp only [List.length_cons, List.length_nil] at hlen
        omega

/-- The trait applications a run makes come from its trait calls. -/
theorem trait_mem_of_mem_traitItems {q : PendingTrait} (hq : q ∈ traitItems cs) :
    trait q.target q.name q.value q.source ∈ cs := by
  obtain ⟨c, hc, hcq⟩ := List.mem_filterMap.mp hq
  cases c with
  | trait target name value source =>
    cases hcq
    exact hc
  | _ => cases hcq

end VisitorCall

namespace Loader

open VisitorCall

variable {name text : String}

/-- Each of the document's metadata keys holds nothing yet, or a value from
the place of the key. -/
def KeysFrom (name text : String) (l : Loader) : Prop :=
  ∀ k ∈ metadataKeys text, l.metadata.lookup k = none ∨
    ∃ v, l.metadata.lookup k = some (v, (Locator.key ⟨name, text.toList.toArray⟩ k 0).1)

theorem onShape_metadata (l : Loader) (p : PendingShape) : (l.onShape p).metadata = l.metadata := by
  rcases l.onShape_cases p with h | ⟨e, h⟩ | ⟨id, -, h⟩ <;> rw [h]
  rfl

/-- A call of the document keeps its keys from the document's places. -/
theorem KeysFrom.step {l : Loader} {c : VisitorCall} (h : l.KeysFrom name text)
    (hc : c.Declares ∧ c.OfDocument name text) : (c.apply l).KeysFrom name text := by
  cases c with
  | shape p =>
    show KeysFrom name text (l.onShape p)
    intro k hk
    rw [l.onShape_metadata p]
    exact h k hk
  | trait target name value source => exact h
  | metadata key value source =>
    obtain ⟨-, -, rfl⟩ := hc
    show KeysFrom name text (l.onMetadata key value _)
    intro k hk
    rw [lookup_onMetadata]
    split
    · next hkey =>
      -- the key's value stays from the key's place
      subst hkey
      refine .inr ?_
      rcases h key hk with hnone | ⟨v, hv⟩
      · rw [hnone]
        exact ⟨value, rfl⟩
      · rw [hv]
        exact MergeRun.push_first _
    · exact h k hk
  | _ => exact hc.1.elim

theorem KeysFrom.run {cs : List VisitorCall} {l : Loader} (h : l.KeysFrom name text)
    (hcs : ∀ c ∈ cs, c.Declares ∧ c.OfDocument name text) : (VisitorCall.run cs l).KeysFrom name text := by
  induction cs generalizing l with
  | nil => exact h
  | cons c rest ih =>
    exact ih (h.step (hcs c (by simp))) fun c' hc' => hcs c' (by simp [hc'])

/-- After a run of the document's calls from a loader where none of the
document's metadata keys had a value, each key the run put a value under keeps
the place of its entry. -/
theorem run_metadata_first {cs : List VisitorCall} {A : Loader} (hcs : ∀ c ∈ cs, c.Declares ∧ c.OfDocument name text)
    (hmeta : ∀ k ∈ metadataKeys text, A.metadata.lookup k = none) {key : String} {value : Node}
    {source : SourceLocation} (hc : VisitorCall.metadata key value source ∈ cs) :
    ((VisitorCall.run cs A).metadata.lookup key).map (·.2) = some source := by
  obtain ⟨hkey, rfl⟩ := (hcs _ hc).2
  -- the entry leaves a value under its key, and the later calls keep its first place
  obtain ⟨pre, post, rfl⟩ := List.append_of_mem hc
  set X := VisitorCall.run pre A
  set source := (Locator.key ⟨name, text.toList.toArray⟩ key 0).1
  have hB : VisitorCall.run (pre ++ VisitorCall.metadata key value source :: post) A =
      VisitorCall.run post (X.onMetadata key value source) := by
    rw [run_append]
    rfl
  have hkept : ((X.onMetadata key value source).metadata.lookup key).isSome := by
    rw [lookup_onMetadata, if_pos rfl, Option.isSome_iff_ne_none]
    exact MergeRun.push_kept_ne_none _ _
  obtain ⟨⟨w, first⟩, hw⟩ := Option.isSome_iff_exists.mp hkept
  have hpost : ∀ c ∈ post, c.Declares := fun c hc => (hcs c (by simp [hc])).1
  obtain ⟨w', hw'⟩ := (grows_run hpost _).metadata key w first hw
  -- the key's value is from the document's place for that key, so that place is `first`
  have hkeys := (KeysFrom.run (l := A) (fun k hk => .inl (hmeta k hk)) hcs) key hkey
  rw [hB, hw'] at hkeys ⊢
  rcases hkeys with hnone | ⟨v, hv⟩
  · cases hnone
  · cases hv
    rfl

/-- **After a document's run of calls from a loader, every call it made is
held, when the run changed only IDs that had no declaration, to one, and the
document's metadata keys had no value.** -/
theorem heldBy_run {cs : List VisitorCall} {A : Loader} (hname : name ≠ "")
    (hcs : ∀ c ∈ cs, c.Declares ∧ c.OfDocument name text)
    (hdecl : ∀ id, (VisitorCall.run cs A).declarations id ≠ A.declarations id →
      A.declarations id = [] ∧ ∃ p, (VisitorCall.run cs A).declarations id = [p])
    (hmeta : ∀ k ∈ metadataKeys text, A.metadata.lookup k = none) :
    ∀ c ∈ cs, c.HeldBy (VisitorCall.run cs A) := by
  have hdeclares : ∀ c ∈ cs, c.Declares := fun c hc => (hcs c hc).1
  intro c hc
  obtain ⟨hdc, hdoc⟩ := hcs c hc
  cases c with
  | shape p =>
    obtain ⟨hsource, hsome⟩ := hdoc
    obtain ⟨id, hid⟩ := Option.isSome_iff_exists.mp hsome
    refine ⟨id, hid, ?_⟩
    rcases run_shape_first hdeclares hc hid with hpre | hfirst | ⟨hne, hmore⟩
    · exact .inl hpre
    · exact .inr ⟨hfirst, SourceLocation.isNone_eq_false hsource hname⟩
    · -- a changed ID had no declaration and got one
      obtain ⟨hnil, q, hq⟩ := hdecl id hne
      rcases hmore with h | h
      · exact (h hnil).elim
      · exact (h q hq).elim
  | trait target name value source => trivial
  | metadata key value source =>
    obtain ⟨-, rfl⟩ := hdoc
    exact ⟨run_metadata_first hcs hmeta hc, SourceLocation.isNone_eq_false (Locator.key_filename _ _ _) hname⟩
  | _ => exact hdc.elim

/-- **Loading a document again, after any more documents, leaves what the
loader finishes to as it was, when the document was the first to give what it
gives.** The first load, from a tidy loader, went through; every ID whose
declarations it changed had none before and has one after; none of the
document's metadata keys had a value before; and each of its trait
applications is, in the loader before the second load, the first of its trait
on its target. The file has a name. -/
theorem load_again_finish {l l₂ : Loader} (hl : l.Tidy) (hname : name ≠ "")
    (hload : l.load name text = (l₂, none))
    (hdecl : ∀ id, l₂.declarations id ≠ l.declarations id → l.declarations id = [] ∧ ∃ p, l₂.declarations id = [p])
    (hmeta : ∀ k ∈ metadataKeys text, l.metadata.lookup k = none) (more : List (String × String))
    (htraits : ∀ q ∈ l₂.traits.drop l.traits.length, (l₂.loadAll more).FirstApplication q) :
    ((l₂.loadAll more).load name text).1.finish = (l₂.loadAll more).finish := by
  obtain ⟨cs, r, F, hcs, hrun⟩ := load_trace name text
  have hdeclares : ∀ c ∈ cs, c.Declares := fun c hc => (hcs c hc).1
  -- the first load went through its version step and made the calls `cs`
  obtain ⟨v, hv⟩ : ∃ v, l.load name text =
      ((VisitorCall.run cs { l.openFile name with version := v }).withFileState F, r) := by
    rcases hrun l with ⟨e, he⟩ | ⟨e, he⟩ | hv
    · rw [hload] at he
      cases he
    · rw [hload] at he
      cases he
    · exact hv
  set A : Loader := { l.openFile name with version := v }
  set B := VisitorCall.run cs A
  have hl₂ : l₂ = B.withFileState F := (Prod.mk.inj (hload.symm.trans hv)).1
  set s := l₂.loadAll more
  have hs : s.Tidy := by
    have h := hl.load name text
    rw [hload] at h
    exact h.loadAll more
  have hBs : B.Grows s := by
    have hBl₂ : B.Grows l₂ := by
      rw [hl₂]
      exact (Grows.refl B).withFileState F
    exact hBl₂.trans (l₂.grows_loadAll more)
  -- every call of the document is held after the first load, so still before the second
  have hdecl' : ∀ id, B.declarations id ≠ A.declarations id → A.declarations id = [] ∧ ∃ p, B.declarations id = [p] := by
    intro id
    have h := hdecl id
    rw [hl₂] at h
    exact h
  have hheld : ∀ c ∈ cs, c.HeldBy s := fun c hc => (heldBy_run (A := A) hname hcs hdecl' hmeta c hc).grows hBs
  -- the document's trait applications
  have hN : l₂.traits.drop l.traits.length = traitItems cs := by
    rw [hl₂]
    show (VisitorCall.run cs A).traits.drop l.traits.length = _
    rw [traits_run hdeclares, show A.traits = l.traits from rfl, List.drop_left]
  have hsub : ∀ q ∈ traitItems cs, q ∈ s.traits := by
    intro q hq
    obtain ⟨rest, hrest⟩ := hBs.traits
    rw [← hrest, traits_run hdeclares]
    exact List.mem_append_left _ (List.mem_append_right _ hq)
  have hfirst : ∀ q ∈ traitItems cs, s.FirstApplication q ∧ q.source.isNone = false := fun q hq =>
    ⟨htraits q (hN ▸ hq), SourceLocation.isNone_eq_false (hcs _ (trait_mem_of_mem_traitItems hq)).2 hname⟩
  -- the second load stops early, or makes the same calls, each held
  have hs' := hs.load name text
  rcases hrun s with ⟨e, he⟩ | ⟨e, he⟩ | ⟨v', hv'⟩
  · rw [he]
  · rw [he] at hs' ⊢
    exact hs.finish_congr hs' rfl rfl rfl rfl (collected_congr rfl rfl rfl rfl rfl)
  rw [hv'] at hs' ⊢
  rw [run_of_heldBy (l := { s.openFile name with version := v' }) fun c hc => (hheld c hc).congr rfl rfl rfl]
    at hs' ⊢
  refine hs.finish_congr hs' rfl rfl rfl rfl ?_
  -- finishing skips the trait applications added again
  exact (collected_congr (l := { s with traits := s.traits ++ traitItems cs }) rfl rfl rfl rfl rfl).trans
    (collected_append_of_first hsub hfirst)

/-- Loading again the document that gave a metadata key its first value, after
a document that merged one more value into the key, leaves the finished loader
as it was. -/
theorem load_again_finish_metadata_first :
    ∃ l₂, ({} : Loader).load "a.json" "\x7b\"metadata\": \x7b\"k\": [1]\x7d\x7d" = (l₂, none) ∧
      ((l₂.loadAll [("b.json", "\x7b\"metadata\": \x7b\"k\": [2]\x7d\x7d")]).load "a.json"
        "\x7b\"metadata\": \x7b\"k\": [1]\x7d\x7d").1.finish =
      (l₂.loadAll [("b.json", "\x7b\"metadata\": \x7b\"k\": [2]\x7d\x7d")]).finish := by
  have hread : read "\x7b\"metadata\": \x7b\"k\": [1]\x7d\x7d" =
      .ok (.obj [("metadata", .obj [("k", .arr [.num (.nat 1)])])]) := by
    cbv
  have hversion : (({} : Loader).openFile "a.json").onVersion modelVersion =
      .ok { ({} : Loader).openFile "a.json" with version := some modelVersion } := onVersion_modelVersion rfl
  -- the first load opens the file, sets the version and puts the metadata entry
  have hload : ({} : Loader).load "a.json" "\x7b\"metadata\": \x7b\"k\": [1]\x7d\x7d" =
      ({ ({} : Loader).openFile "a.json" with version := some modelVersion }.onMetadata "k" (.arr [.num (.nat 1)])
        (Locator.key ⟨"a.json", "\x7b\"metadata\": \x7b\"k\": [1]\x7d\x7d".toList.toArray⟩ "k" 0).1, none) := by
    unfold Loader.load loadDocument
    simp only [hread, pure_bind, LoadM.run_bind_ok (LoadM.run_modify _ _),
      LoadM.run_bind_ok (LoadM.run_objectOf_obj _ _ _), Node.lookup, beq_iff_eq, String.reduceEq, ↓reduceIte]
    rw [LoadM.run_bind_ok (LoadM.run_step_ok hversion)]
    rfl
  refine ⟨_, hload, load_again_finish (Tidy.of_empty rfl rfl) (by decide) hload (fun _ h => absurd rfl h)
    (fun _ _ => rfl) _ fun q hq => ?_⟩
  cases hq

end Loader

end ShapeKit
