import Mathlib.Data.List.Forall2
import ShapeKit.Validation.Validator

/-!
# Suppressions demote and never drop

Validation runs the validators, then applies suppressions to the events found.
The main statement, `ModelValidator.validate_demotes`, says what that last step
does to a model's events: the events come back in order and as many, each one
as `Demotes` says. An event already `SUPPRESSED` stays. Any other event is
demoted to `SUPPRESSED`

* with the reason of the first well-formed entry of the `suppressions` metadata
  that covers it (`Suppression.Covers`: the same event ID, and the scope `*`,
  the namespace of the event's shape, or the shape or its container), or else
* with no reason, when a `suppress` trait on the event's shape or on the shape's
  container lists the event's ID (`TraitSuppressed`),

and is kept unchanged otherwise. `Demotes` is a function (`Demotes.unique`).
-/

namespace ShapeKit

open Json

/-! ## §1. What a suppression covers -/

namespace Suppression

/-- A suppression covers an event when the event IDs agree and the event lies in
its scope: anywhere for `"namespace": "*"`, in the namespace of the event's
shape, or on the event's shape or the shape's container. -/
def Covers (s : Suppression) (e : Event) : Prop :=
  e.id = s.eventId ∧
    (s.scope = .model ∨ ∃ id, e.shapeId = some id ∧
      (s.scope = .ns id.ns ∨ s.scope = .shape id ∨ s.scope = .shape id.withoutMember))

theorem appliesTo_iff {s : Suppression} {e : Event} : s.appliesTo e = true ↔ s.Covers e := by
  unfold appliesTo Covers
  rcases s with ⟨eid, scope, reason⟩
  cases scope <;> cases e.shapeId <;> simp <;> grind

end Suppression

/-- The `suppress` trait of the event's shape, or of the shape's container,
lists the event's ID. -/
def TraitSuppressed (m : Model) (e : Event) : Prop :=
  ∃ id, e.shapeId = some id ∧ ∃ c, (c = id ∨ c = id.withoutMember) ∧
    ∃ s ids, m.get? c = some s ∧ suppressedIds s = some ids ∧ e.id ∈ ids

/-! ## §2. What suppression does to one event -/

/-- What suppression does to one event, given the suppressions of the metadata
in order: an event already `SUPPRESSED` stays; otherwise the first suppression
that covers it demotes it with its reason; otherwise a `suppress` trait that
lists it demotes it with no reason; otherwise it stays. -/
inductive Demotes (m : Model) (ss : List Suppression) : Event → Event → Prop
  | already {e : Event} : e.severity = .suppressed → Demotes m ss e e
  | byMetadata {e : Event} {pre : List Suppression} {s : Suppression} {post : List Suppression} :
      e.severity ≠ .suppressed → ss = pre ++ s :: post → (∀ t ∈ pre, ¬ t.Covers e) → s.Covers e →
      Demotes m ss e (e.suppress s.reason)
  | byTrait {e : Event} : e.severity ≠ .suppressed → (∀ s ∈ ss, ¬ s.Covers e) →
      TraitSuppressed m e → Demotes m ss e (e.suppress none)
  | kept {e : Event} : e.severity ≠ .suppressed → (∀ s ∈ ss, ¬ s.Covers e) →
      ¬ TraitSuppressed m e → Demotes m ss e e

/-- `Demotes` gives each event one result: the cases exclude each other, and the
first covering suppression is the one `find?` meets. -/
theorem Demotes.unique {m : Model} {ss : List Suppression} {e e₁ e₂ : Event}
    (h₁ : Demotes m ss e e₁) (h₂ : Demotes m ss e e₂) : e₁ = e₂ := by
  -- a first covering suppression is what `find?` finds
  have first : ∀ {pre s post}, ss = pre ++ s :: post → (∀ t ∈ pre, ¬ t.Covers e) → s.Covers e →
      ss.find? (·.appliesTo e) = some s := fun hss hpre hs =>
    List.find?_eq_some_iff_append.2 ⟨Suppression.appliesTo_iff.2 hs, _, _, hss,
      fun t ht => by simpa using Suppression.appliesTo_iff.not.2 (hpre t ht)⟩
  cases h₁ with
  | already hs =>
    cases h₂ with
    | already => rfl
    | byMetadata hs' | byTrait hs' | kept hs' => exact absurd hs hs'
  | byMetadata hs hss hpre hcov =>
    cases h₂ with
    | already hs' => contradiction
    | byMetadata _ hss' hpre' hcov' =>
      rw [Option.some.inj ((first hss hpre hcov).symm.trans (first hss' hpre' hcov'))]
    | byTrait _ hnone _ | kept _ hnone _ => exact absurd hcov (hnone _ (hss ▸ by simp))
  | byTrait hs hnone ht =>
    cases h₂ with
    | already hs' => contradiction
    | byMetadata _ hss' _ hcov' => exact absurd hcov' (hnone _ (hss' ▸ by simp))
    | byTrait => rfl
    | kept _ _ hnt => contradiction
  | kept hs hnone hnt =>
    cases h₂ with
    | already hs' => contradiction
    | byMetadata _ hss' _ hcov' => exact absurd hcov' (hnone _ (hss' ▸ by simp))
    | byTrait _ _ ht => contradiction
    | kept => rfl

theorem listed_of_getD {s : Shape} {eid : String}
    (h : ((suppressedIds s).map (·.contains eid)).getD false = true) :
    ∃ ids, suppressedIds s = some ids ∧ eid ∈ ids := by
  cases hs : suppressedIds s <;> simp_all

/-- The shapes a `suppress` trait is looked for on: the event's shape, and the
container when the shape is a member. -/
theorem any_candidates {id : ShapeId} {p : ShapeId → Bool} :
    (if id.isMember then [id, id.withoutMember] else [id]).any p = (p id || p id.withoutMember) := by
  rcases id with ⟨ns, name, _ | mem⟩ <;> simp [ShapeId.isMember, ShapeId.withoutMember]

theorem applySuppressions_demotes (m : Model) (ss : List Suppression) (e : Event) :
    Demotes m ss e (applySuppressions m ss e) := by
  unfold applySuppressions
  by_cases hsup : e.severity = .suppressed
  · simp only [hsup, beq_self_eq_true, ↓reduceIte]
    exact .already hsup
  simp only [beq_iff_eq, hsup, ↓reduceIte]
  cases hfind : ss.find? (·.appliesTo e) with
  | some s =>
    obtain ⟨hs, pre, post, rfl, hpre⟩ := List.find?_eq_some_iff_append.1 hfind
    refine .byMetadata hsup rfl (fun t ht hc => ?_) (Suppression.appliesTo_iff.1 hs)
    have := hpre t ht
    rw [Suppression.appliesTo_iff.2 hc] at this
    contradiction
  | none =>
    have hnone : ∀ s ∈ ss, ¬ s.Covers e := fun s hs => by
      simpa [Suppression.appliesTo_iff] using List.find?_eq_none.1 hfind s hs
    dsimp only
    cases hid : e.shapeId with
    | none =>
      simp only [Bool.false_eq_true, ↓reduceIte]
      refine .kept hsup hnone ?_
      rintro ⟨id, h, -⟩
      simp [hid] at h
    | some id =>
      dsimp only
      simp only [any_candidates]
      split_ifs with h
      · -- the trait test held on the shape or on its container
        rcases Bool.or_eq_true _ _ ▸ h with h | h
        · split at h
          · next s hs =>
            obtain ⟨ids, hids, hmem⟩ := listed_of_getD h
            exact .byTrait hsup hnone ⟨id, hid, id, .inl rfl, s, ids, hs, hids, hmem⟩
          · cases h
        · split at h
          · next s hs =>
            obtain ⟨ids, hids, hmem⟩ := listed_of_getD h
            exact .byTrait hsup hnone ⟨id, hid, _, .inr rfl, s, ids, hs, hids, hmem⟩
          · cases h
      · refine .kept hsup hnone ?_
        rintro ⟨id', hid', c, hc, s, ids, hs, hids, hmem⟩
        cases hid.symm.trans hid'
        rcases hc with rfl | rfl <;> simp [hs, hids, hmem] at h

/-! ## §3. The suppressions of the metadata -/

/-- The entries of the `suppressions` metadata, when it is an array. -/
def suppressionEntries (m : Model) : List Node :=
  match m.metadataProperty "suppressions" with
  | some (.arr entries) => entries
  | _ => []

/-- The well-formed entries of the `suppressions` metadata, read, in order. -/
def wellFormedSuppressions (m : Model) : List Suppression :=
  (suppressionEntries m).filterMap fun n => (Suppression.ofNode n).toOption

/-- A fold whose step appends to the first component what `g` reads from the
item builds, in the first component, the items `g` reads. -/
theorem foldl_fst_eq_filterMap {α β γ : Type} {f : List α × β → γ → List α × β} {g : γ → Option α}
    (hf : ∀ acc x, (f acc x).1 = acc.1 ++ (g x).toList) :
    ∀ (xs : List γ) (acc : List α × β), (xs.foldl f acc).1 = acc.1 ++ xs.filterMap g
  | [], acc => by simp
  | x :: xs, acc => by
    rw [List.foldl_cons, foldl_fst_eq_filterMap hf xs, hf, List.filterMap_cons]
    cases g x <;> simp

/-- The suppressions validation applies are the well-formed entries, in order. -/
theorem metadataSuppressions_fst (m : Model) :
    (ModelValidator.metadataSuppressions m).1 = wellFormedSuppressions m := by
  unfold ModelValidator.metadataSuppressions wellFormedSuppressions suppressionEntries
  cases m.metadataProperty "suppressions" with
  | none => rfl
  | some n =>
    cases n <;> try rfl
    rw [foldl_fst_eq_filterMap (g := fun n => (Suppression.ofNode n).toOption)]
    · rfl
    · rintro ⟨ss, es⟩ x
      cases Suppression.ofNode x <;> simp [Except.toOption]

/-! ## §4. Validation -/

namespace ModelValidator

/-- The events validation finds before suppressions, in order: the errors of the
`validators` metadata, the events of each validator that runs (the registry's,
those enabled by hand, then those the metadata asks for, less the disabled
ones), and the errors of the `suppressions` metadata. `none` when a validator
never ends. -/
def rawEvents (v : ModelValidator) (m : Model) : Option (List Event) := do
  let (configured, metaEvents) := v.metadataValidators m
  let running := (v.registry.validators ++ v.extra ++ configured).filter fun x =>
    !v.disabled.contains x.name
  let found ← running.mapM (·.run m)
  return metaEvents ++ found.flatten ++ (metadataSuppressions m).2

/-- Validation suppresses the events found before suppressions, one by one. -/
theorem validate_eq_map_rawEvents (v : ModelValidator) (m : Model) :
    v.validate m = (v.rawEvents m).map (List.map (applySuppressions m (metadataSuppressions m).1)) := by
  simp only [validate, rawEvents]
  cases (List.filter (fun x => !v.disabled.contains x.name)
    (v.registry.validators ++ v.extra ++ (v.metadataValidators m).1)).mapM (·.run m) <;> rfl

/-- Suppressions demote and never drop: validation returns the events found
before suppressions, in order and as many, each as `Demotes` says for the
well-formed entries of the `suppressions` metadata. -/
theorem validate_demotes (v : ModelValidator) (m : Model) :
    Option.Rel (List.Forall₂ (Demotes m (wellFormedSuppressions m))) (v.rawEvents m) (v.validate m) := by
  rw [validate_eq_map_rawEvents, metadataSuppressions_fst]
  cases v.rawEvents m with
  | none => exact .none
  | some raw =>
    exact .some (List.forall₂_map_right_iff.2 (List.forall₂_same.2 fun e _ => applySuppressions_demotes m _ e))

end ModelValidator

end ShapeKit
