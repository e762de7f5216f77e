import ShapeKit.Load.Document

/-!
# Running loading steps

A loading step runs from a loader to a result (or the error that stopped it)
and the loader as far as it got. This module gives the run of each building
block of a loading step, so that a step written for a known document can be
run symbolically, and a small logic of invariants: `Keeps P Q x` says that the
step `x` keeps the loader invariant `P`, whether it fails or not, and that its
result, when it has one, satisfies `Q`. Every invariant of the loader that
holds across whole documents is assembled from the combinators below, one per
way a step is built.
-/

namespace ShapeKit

namespace LoadM

variable {α β : Type}

/-! ## §1. Runs of the building blocks -/

theorem run_bind (x : LoadM α) (f : α → LoadM β) (l : Loader) :
    (x >>= f).run.run l = match x.run.run l with
      | (.ok a, l') => (f a).run.run l'
      | (.error e, l') => (.error e, l') := by
  simp only [ExceptT.run_bind, StateT.run_bind]
  rcases x.run.run l with ⟨_ | a, l'⟩ <;> rfl

theorem run_bind_ok {x : LoadM α} {l l' : Loader} {a : α} (h : x.run.run l = (.ok a, l'))
    (f : α → LoadM β) : (x >>= f).run.run l = (f a).run.run l' := by
  rw [run_bind, h]

theorem run_bind_error {x : LoadM α} {l l' : Loader} {e : LoadError}
    (h : x.run.run l = (.error e, l')) (f : α → LoadM β) : (x >>= f).run.run l = (.error e, l') := by
  rw [run_bind, h]

theorem run_map (f : α → β) (x : LoadM α) (l : Loader) :
    (f <$> x).run.run l = match x.run.run l with
      | (.ok a, l') => (.ok (f a), l')
      | (.error e, l') => (.error e, l') := by
  rw [← bind_pure_comp, run_bind]
  rcases x.run.run l with ⟨_ | a, l'⟩ <;> rfl

theorem run_map_ok {x : LoadM α} {l l' : Loader} {a : α} (h : x.run.run l = (.ok a, l'))
    (f : α → β) : (f <$> x).run.run l = (.ok (f a), l') := by
  rw [run_map, h]

@[simp] theorem run_pure (a : α) (l : Loader) : (pure a : LoadM α).run.run l = (.ok a, l) := rfl

@[simp] theorem run_throw (e : LoadError) (l : Loader) :
    (throw e : LoadM α).run.run l = (.error e, l) := rfl

@[simp] theorem run_modify (f : Loader → Loader) (l : Loader) :
    (modify f : LoadM Unit).run.run l = (.ok (), f l) := rfl

@[simp] theorem run_malformed (m : String) (l : Loader) :
    (malformed m : LoadM α).run.run l = (.error (.invalidAst l.file m), l) := rfl

theorem run_step (f : Loader → Except LoadError Loader) (l : Loader) :
    (step f).run.run l = match f l with
      | .ok l' => (.ok (), l')
      | .error e => (.error e, l) := by
  show (match f l with | .ok l' => set l' | .error e => throw e : LoadM Unit).run.run l = _
  cases f l <;> rfl

theorem run_step_ok {f : Loader → Except LoadError Loader} {l l' : Loader} (h : f l = .ok l') :
    (step f).run.run l = (.ok (), l') := by
  rw [run_step, h]

theorem run_ask (f : Loader → Except LoadError α) (l : Loader) :
    (ask f).run.run l = match f l with
      | .ok a => (.ok a, l)
      | .error e => (.error e, l) := by
  show (match f l with | .ok a => pure a | .error e => throw e : LoadM α).run.run l = _
  cases f l <;> rfl

theorem run_ask_ok {f : Loader → Except LoadError α} {l : Loader} {a : α} (h : f l = .ok a) :
    (ask f).run.run l = (.ok a, l) := by
  rw [run_ask, h]

@[simp] theorem run_objectOf_obj (es : List (String × Json.Node)) (what : String) (l : Loader) :
    (objectOf (.obj es) what).run.run l = (.ok es, l) := rfl

@[simp] theorem run_arrayOf_arr (xs : List Json.Node) (what : String) (l : Loader) :
    (arrayOf (.arr xs) what).run.run l = (.ok xs, l) := rfl

/-! ## §2. Loops whose every round succeeds -/

/-- A loop whose every round succeeds and changes the loader by a function
runs as the fold of those functions. -/
theorem run_forIn_ok (xs : List α) (f : α → PUnit → LoadM (ForInStep PUnit))
    (g : α → Loader → Loader) (hf : ∀ x ∈ xs, ∀ l, (f x ()).run.run l = (.ok (.yield ()), g x l))
    (l : Loader) : (forIn xs () f).run.run l = (.ok (), xs.foldl (fun l x => g x l) l) := by
  induction xs generalizing l with
  | nil => rfl
  | cons x xs ih =>
    rw [List.forIn_cons, run_bind_ok (hf x (by simp) l)]
    exact ih (fun y hy => hf y (by simp [hy])) (g x l)

/-- `mapM` over rounds that each succeed. -/
theorem run_mapM_ok (xs : List α) (f : α → LoadM β) (h : α → β) (g : α → Loader → Loader)
    (hf : ∀ x ∈ xs, ∀ l, (f x).run.run l = (.ok (h x), g x l)) (l : Loader) :
    (xs.mapM f).run.run l = (.ok (xs.map h), xs.foldl (fun l x => g x l) l) := by
  induction xs generalizing l with
  | nil => rfl
  | cons x xs ih =>
    rw [List.mapM_cons, run_bind_ok (hf x (by simp) l), run_bind_ok (ih (fun y hy => hf y (by simp [hy])) _)]
    rfl

/-- `filterMapM` over rounds that each succeed. -/
theorem run_filterMapM_ok (xs : List α) (f : α → LoadM (Option β)) (h : α → Option β)
    (g : α → Loader → Loader) (hf : ∀ x ∈ xs, ∀ l, (f x).run.run l = (.ok (h x), g x l))
    (l : Loader) :
    (xs.filterMapM f).run.run l = (.ok (xs.filterMap h), xs.foldl (fun l x => g x l) l) := by
  induction xs generalizing l with
  | nil => rfl
  | cons x xs ih =>
    rw [List.filterMapM_cons, run_bind_ok (hf x (by simp) l)]
    cases hx : h x with
    | none =>
      simp only [List.filterMap_cons, hx, List.foldl_cons]
      exact ih (fun y hy => hf y (by simp [hy])) _
    | some b =>
      simp only
      rw [run_bind_ok (ih (fun y hy => hf y (by simp [hy])) _)]
      simp only [List.filterMap_cons, hx, List.foldl_cons]
      rfl

theorem foldl_keep (xs : List α) (l : Loader) : xs.foldl (fun l _ => l) l = l := by
  induction xs <;> simp_all

/-- `mapM` over rounds that each succeed and leave the loader as it is. -/
theorem run_mapM_ok_keep (xs : List α) (f : α → LoadM β) (h : α → β)
    (hf : ∀ x ∈ xs, ∀ l, (f x).run.run l = (.ok (h x), l)) (l : Loader) :
    (xs.mapM f).run.run l = (.ok (xs.map h), l) := by
  rw [run_mapM_ok xs f h (fun _ l => l) hf l, foldl_keep]

/-- `filterMapM` over rounds that each succeed and leave the loader as it is. -/
theorem run_filterMapM_ok_keep (xs : List α) (f : α → LoadM (Option β)) (h : α → Option β)
    (hf : ∀ x ∈ xs, ∀ l, (f x).run.run l = (.ok (h x), l)) (l : Loader) :
    (xs.filterMapM f).run.run l = (.ok (xs.filterMap h), l) := by
  rw [run_filterMapM_ok xs f h (fun _ l => l) hf l, foldl_keep]

/-! ## §3. Steps that keep an invariant -/

/-- The step keeps the loader invariant `P`, whether it fails or not, and its
result, when it has one, satisfies `Q`. -/
def Keeps (P : Loader → Prop) (Q : α → Prop) (x : LoadM α) : Prop :=
  ∀ l, P l → P (x.run.run l).2 ∧ ∀ a, (x.run.run l).1 = .ok a → Q a

variable {P : Loader → Prop} {Q : α → Prop} {R : β → Prop}

theorem Keeps.pure {a : α} (h : Q a) : Keeps P Q (pure a) := fun _ hl =>
  ⟨hl, fun _ ha => by cases ha; exact h⟩

theorem Keeps.throw {e : LoadError} : Keeps P Q (throw e) := fun _ hl =>
  ⟨hl, fun _ ha => by cases ha⟩

theorem Keeps.malformed {m : String} : Keeps P Q (ShapeKit.malformed m) := fun _ hl =>
  ⟨hl, fun _ ha => by cases ha⟩

theorem Keeps.mono {x : LoadM α} {Q' : α → Prop} (hx : Keeps P Q x) (hq : ∀ a, Q a → Q' a) :
    Keeps P Q' x := fun l hl =>
  ⟨(hx l hl).1, fun a ha => hq a ((hx l hl).2 a ha)⟩

theorem Keeps.bind {x : LoadM α} {f : α → LoadM β} (hx : Keeps P Q x)
    (hf : ∀ a, Q a → Keeps P R (f a)) : Keeps P R (x >>= f) := by
  intro l hl
  rw [run_bind]
  obtain ⟨hl', hq⟩ := hx l hl
  rcases hrun : x.run.run l with ⟨_ | a, l'⟩
  · rw [hrun] at hl'
    exact ⟨hl', fun _ ha => by cases ha⟩
  · rw [hrun] at hl' hq
    exact hf a (hq a rfl) l' hl'

theorem Keeps.modify {f : Loader → Loader} (h : ∀ l, P l → P (f l)) :
    Keeps P (fun _ => True) (modify f) := fun l hl =>
  ⟨h l hl, fun _ _ => trivial⟩

theorem Keeps.step {f : Loader → Except LoadError Loader} (h : ∀ l l', P l → f l = .ok l' → P l') :
    Keeps P (fun _ => True) (ShapeKit.step f) := by
  intro l hl
  rw [run_step]
  rcases hf : f l with e | l'
  · exact ⟨hl, fun _ ha => by cases ha⟩
  · exact ⟨h l l' hl hf, fun _ _ => trivial⟩

theorem Keeps.ask {f : Loader → Except LoadError α} (h : ∀ l a, P l → f l = .ok a → Q a) :
    Keeps P Q (ShapeKit.ask f) := by
  intro l hl
  rw [run_ask]
  rcases hf : f l with e | a
  · exact ⟨hl, fun _ ha => by cases ha⟩
  · exact ⟨hl, fun _ ha => by cases ha; exact h l a hl hf⟩

theorem Keeps.objectOf {n : Json.Node} {what : String} :
    Keeps P (fun _ => True) (ShapeKit.objectOf n what) := by
  unfold ShapeKit.objectOf
  split
  · exact Keeps.pure trivial
  · exact Keeps.malformed

theorem Keeps.arrayOf {n : Json.Node} {what : String} :
    Keeps P (fun _ => True) (ShapeKit.arrayOf n what) := by
  unfold ShapeKit.arrayOf
  split
  · exact Keeps.pure trivial
  · exact Keeps.malformed

/-- A loop keeps an invariant that every round keeps. -/
theorem Keeps.forIn {xs : List α} {b : β} {f : α → β → LoadM (ForInStep β)}
    (hf : ∀ x ∈ xs, ∀ b, Keeps P (fun _ => True) (f x b)) : Keeps P (fun _ => True) (forIn xs b f) := by
  induction xs generalizing b with
  | nil => exact Keeps.pure trivial
  | cons x xs ih =>
    rw [List.forIn_cons]
    refine Keeps.bind (hf x (by simp) b) fun r _ => ?_
    cases r with
    | done b' => exact Keeps.pure trivial
    | yield b' => exact ih (fun y hy => hf y (by simp [hy])) (b := b')

/-- Every result of a `mapM` satisfies what every round's result does. -/
theorem Keeps.mapM {xs : List α} {f : α → LoadM β} (hf : ∀ x ∈ xs, Keeps P R (f x)) :
    Keeps P (fun ys => ∀ y ∈ ys, R y) (xs.mapM f) := by
  induction xs with
  | nil => exact Keeps.pure (by simp)
  | cons x xs ih =>
    rw [List.mapM_cons]
    refine Keeps.bind (hf x (by simp)) fun y hy => ?_
    refine Keeps.bind (ih fun z hz => hf z (by simp [hz])) fun ys hys => Keeps.pure ?_
    simpa [hy] using hys

/-- Every result of a `filterMapM` satisfies what every round's result does. -/
theorem Keeps.filterMapM {xs : List α} {f : α → LoadM (Option β)}
    (hf : ∀ x ∈ xs, Keeps P (fun o => ∀ y ∈ o, R y) (f x)) :
    Keeps P (fun ys => ∀ y ∈ ys, R y) (xs.filterMapM f) := by
  induction xs with
  | nil => exact Keeps.pure (by simp)
  | cons x xs ih =>
    rw [List.filterMapM_cons]
    refine Keeps.bind (hf x (by simp)) fun o ho => ?_
    cases o with
    | none => exact ih fun z hz => hf z (by simp [hz])
    | some y =>
      refine Keeps.bind (ih fun z hz => hf z (by simp [hz])) fun ys hys => Keeps.pure ?_
      simpa [ho y rfl] using hys

end LoadM

end ShapeKit
