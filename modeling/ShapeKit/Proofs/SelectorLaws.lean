import ShapeKit.Proofs.NeighborIndex

/-!
# Laws of selector evaluation

Every step of a selector looks at its input one shape at a time: filters test
each shape, neighbor steps and `~>` collect what each shape reaches, `:is`
joins what its alternatives give, `:not` and `:test` try their inner
selectors on each shape alone, and `:topdown` walks from each root with a
visited set of its own. So evaluation distributes over unions of inputs
(`Context.evalSteps_union`).

A selector's index holds trait relationships only when some step, however
deeply nested, names the label `trait`; no other step follows one, so
leaving them out changes nothing (`select_eq_evalSteps_withTraits`).

  * §1 — the top-down walk: one visit, and what the marked shapes it was
    given do to it (nothing: it adds its own after them);
  * §2 — each step, then each selector, acts shape by shape;
  * §3 — steps that do not name `trait` evaluate alike with and without
    trait relationships.
-/

namespace ShapeKit.Selector

namespace Context

variable (c : Context)

/-! ## §1. The top-down walk -/

/-- The resources and operations the top-down walk goes on to from a shape: the
resolved neighbors of its `RESOURCE` and `OPERATION` relationships, the shape
itself left out. -/
def bindings (id : ShapeId) : List ShapeId :=
  (c.index.outgoing id).filterMap fun r =>
    if (r.kind == .resource || r.kind == .operation) && r.resolved && r.neighbor != id then
      some r.neighbor
    else none

section Walk

variable (qual disq : ShapeId → Bool)

/-- One visit of the top-down walk: a shape seen before is skipped; otherwise
it is marked when qualified and not disqualified, and the walk goes on to its
bindings with that qualification. -/
theorem topDown_succ (n : Nat) (id : ShapeId) (inh : Bool) (visited out : List ShapeId) :
    c.topDown qual disq (n + 1) id inh (visited, out) =
      if visited.contains id then (visited, out)
      else (c.bindings id).foldl (fun st ch => c.topDown qual disq n ch ((inh || qual id) && !disq id) st)
        (visited ++ [id], if (inh || qual id) && !disq id then out ++ [id] else out) := rfl

/-- A fold of steps on the walk's state each of which adds its marked shapes
after those it is given, and visits the same shapes whatever those are, does
so as well. -/
theorem foldl_marksAfter {F : List ShapeId × List ShapeId → ShapeId → List ShapeId × List ShapeId}
    (hF : ∀ ch visited out, F (visited, out) ch = ((F (visited, []) ch).1, out ++ (F (visited, []) ch).2))
    (l : List ShapeId) (visited out : List ShapeId) :
    l.foldl F (visited, out) = ((l.foldl F (visited, [])).1, out ++ (l.foldl F (visited, [])).2) := by
  induction l generalizing visited out with
  | nil => simp
  | cons ch rest ih =>
    simp only [List.foldl_cons]
    rw [hF ch visited out, ih, ih _ (F (visited, []) ch).2, List.append_assoc]

/-- The walk from a shape adds its marked shapes after those it is given, and
visits the same shapes whatever those are. -/
theorem topDown_marksAfter (n : Nat) (id : ShapeId) (inh : Bool) (visited out : List ShapeId) :
    c.topDown qual disq n id inh (visited, out) =
      ((c.topDown qual disq n id inh (visited, [])).1, out ++ (c.topDown qual disq n id inh (visited, [])).2) := by
  induction n generalizing id inh visited out with
  | zero => simp [Context.topDown]
  | succ n ih =>
    rw [topDown_succ, topDown_succ]
    split
    · simp
    · -- the bindings are walked with the qualification of this visit
      generalize ((inh || qual id) && !disq id) = q
      have hF := foldl_marksAfter (F := fun st ch => c.topDown qual disq n ch q st) fun ch => ih ch q
      cases q
      · exact hF _ _ _
      · simp only [if_true]
        rw [hF _ _ (out ++ [id]), hF _ _ ([] ++ [id])]
        simp

/-- The shapes the top-down walk from one root marks. -/
def marked (r : ShapeId) : List ShapeId :=
  (c.topDown qual disq (c.model.size + 1) r false ([], [])).2

/-- Walking from roots one after another, each from nothing visited, marks
what each walk marks. -/
theorem foldl_walks (roots acc : List ShapeId) :
    roots.foldl (fun out r => (c.topDown qual disq (c.model.size + 1) r false ([], out)).2) acc =
      acc ++ roots.flatMap (c.marked qual disq) := by
  induction roots generalizing acc with
  | nil => simp
  | cons r rest ih =>
    rw [List.foldl_cons, ih, topDown_marksAfter, List.flatMap_cons, List.append_assoc]
    rfl

end Walk

/-- Whether steps applied to one shape yield anything. -/
def yields (steps : List Step) (id : ShapeId) : Bool := !(c.evalSteps steps [id]).isEmpty

/-- The disqualifier test of `:topdown`; without a disqualifier nothing is
disqualified. -/
def disqualifies : Option (List Step) → ShapeId → Bool
  | some steps, id => c.yields steps id
  | none, _ => false

/-- The shapes `:topdown` walks from: the services, resources and operations of
its input. -/
def roots (input : List ShapeId) : List ShapeId :=
  c.keep input fun s => s.type == .service || s.type == .resource || s.type == .operation

theorem apply_topDown (q : List Step) (d : Option (List Step)) (input : List ShapeId) :
    c.apply (.topDown q d) input =
      sortIds ((c.roots input).flatMap (c.marked (c.yields q) (c.disqualifies d))) := by
  rw [Context.apply, foldl_walks, List.nil_append]
  cases d <;> rfl

/-! ## §2. Evaluation is pointwise -/

theorem mem_keep (input : List ShapeId) (p : Shape → Bool) (x : ShapeId) :
    x ∈ c.keep input p ↔ x ∈ input ∧ ∃ s, c.model.get? x = some s ∧ p s = true := by
  simp only [Context.keep, List.mem_filter]
  cases c.model.get? x <;> simp

/-- A filter keeps a shape of its input when it keeps it alone. -/
theorem mem_keep_pointwise (input : List ShapeId) (p : Shape → Bool) (x : ShapeId) :
    x ∈ c.keep input p ↔ ∃ y ∈ input, x ∈ c.keep [y] p := by
  simp [mem_keep]

theorem mem_filter_pointwise (input : List ShapeId) (p : ShapeId → Bool) (x : ShapeId) :
    x ∈ input.filter p ↔ ∃ y ∈ input, x ∈ [y].filter p := by
  simp

mutual

/-- Each step acts shape by shape. -/
theorem apply_pointwise : ∀ (s : Step) (input : List ShapeId) (x : ShapeId),
    x ∈ c.apply s input ↔ ∃ y ∈ input, x ∈ c.apply s [y]
  | .type f, input, x => mem_keep_pointwise c input _ x
  | .attribute path cmp, input, x => mem_keep_pointwise c input _ x
  | .scoped scope assertions, input, x => mem_keep_pointwise c input _ x
  | .neighbor dir labels, input, x => by simp only [mem_apply_neighbor, List.mem_singleton, exists_eq_left]
  | .recursive, input, x => by simp [Context.apply, mem_sortIds]
  | .is alts, input, x => by
    simp only [Context.apply, mem_sortIds]
    exact alternatives_pointwise alts input x
  | .not inner, input, x => mem_filter_pointwise input _ x
  | .test alts, input, x => mem_filter_pointwise input _ x
  | .topDown q d, input, x => by
    -- every root is walked from nothing visited
    simp only [apply_topDown, mem_sortIds, List.mem_flatMap, roots]
    simp only [mem_keep, List.mem_singleton]
    constructor
    · rintro ⟨r, ⟨hr, hs⟩, hx⟩
      exact ⟨r, hr, r, ⟨rfl, hs⟩, hx⟩
    · rintro ⟨y, hy, r, ⟨rfl, hs⟩, hx⟩
      exact ⟨r, ⟨hy, hs⟩, hx⟩

/-- A selector acts shape by shape. -/
theorem evalSteps_pointwise : ∀ (steps : List Step) (input : List ShapeId) (x : ShapeId),
    x ∈ c.evalSteps steps input ↔ ∃ y ∈ input, x ∈ c.evalSteps steps [y]
  | [], input, x => by simp [Context.evalSteps]
  | s :: rest, input, x => by
    -- what the first step gives, shape by shape, goes through the rest shape by shape
    simp only [Context.evalSteps]
    rw [evalSteps_pointwise rest]
    constructor
    · rintro ⟨z, hz, hx⟩
      obtain ⟨y, hy, hzy⟩ := (apply_pointwise s input z).mp hz
      exact ⟨y, hy, (evalSteps_pointwise rest _ x).mpr ⟨z, hzy, hx⟩⟩
    · rintro ⟨y, hy, hx⟩
      obtain ⟨z, hz, hxz⟩ := (evalSteps_pointwise rest _ x).mp hx
      exact ⟨z, (apply_pointwise s input z).mpr ⟨y, hy, hz⟩, hxz⟩

/-- Alternatives act shape by shape. -/
theorem alternatives_pointwise : ∀ (alts : List (List Step)) (input : List ShapeId) (x : ShapeId),
    x ∈ c.evalAlternatives alts input ↔ ∃ y ∈ input, x ∈ c.evalAlternatives alts [y]
  | [], input, x => by simp [Context.evalAlternatives]
  | a :: rest, input, x => by
    simp only [Context.evalAlternatives, List.mem_append]
    rw [evalSteps_pointwise a, alternatives_pointwise rest]
    constructor
    · rintro (⟨y, hy, hx⟩ | ⟨y, hy, hx⟩)
      · exact ⟨y, hy, .inl hx⟩
      · exact ⟨y, hy, .inr hx⟩
    · rintro ⟨y, hy, hx | hx⟩
      · exact .inl ⟨y, hy, hx⟩
      · exact .inr ⟨y, hy, hx⟩

end

/-- **Selector evaluation distributes over union**: over every model and index,
evaluating steps on the union of two inputs gives the union of what each gives,
nothing gives nothing, and so every input gives the union of what its shapes
give alone. -/
theorem evalSteps_union (steps : List Step) :
    (∀ (X Y : List ShapeId) (x : ShapeId),
      x ∈ c.evalSteps steps (X ++ Y) ↔ x ∈ c.evalSteps steps X ∨ x ∈ c.evalSteps steps Y) ∧
    c.evalSteps steps [] = [] ∧
    ∀ (X : List ShapeId) (x : ShapeId), x ∈ c.evalSteps steps X ↔ ∃ y ∈ X, x ∈ c.evalSteps steps [y] := by
  refine ⟨fun X Y x => ?_, ?_, c.evalSteps_pointwise steps⟩
  · rw [c.evalSteps_pointwise steps (X ++ Y) x, c.evalSteps_pointwise steps X x,
      c.evalSteps_pointwise steps Y x]
    simp only [List.mem_append]
    constructor
    · rintro ⟨y, hy | hy, hx⟩
      · exact .inl ⟨y, hy, hx⟩
      · exact .inr ⟨y, hy, hx⟩
    · rintro (⟨y, hy, hx⟩ | ⟨y, hy, hx⟩)
      · exact ⟨y, .inl hy, hx⟩
      · exact ⟨y, .inr hy, hx⟩
  · refine List.eq_nil_iff_forall_not_mem.mpr fun x hx => ?_
    obtain ⟨y, hy, -⟩ := (c.evalSteps_pointwise steps [] x).mp hx
    cases hy

/-! ## §3. Trait relationships -/

/-- The same model with its index less trait relationships. -/
def withoutTraits : Context := ⟨c.model, c.index.withoutTraits⟩

/-- Dropping relationships that a step maps to nothing changes nothing. -/
theorem filterMap_withoutTraits {β : Type} {f : Relationship → Option β}
    (hf : ∀ r, r.kind = .trait → f r = none) (l : List Relationship) :
    (l.filter fun r => r.kind != .trait).filterMap f = l.filterMap f := by
  rw [List.filterMap_filter]
  refine List.filterMap_congr fun r _ => ?_
  by_cases h : r.kind = .trait
  · simp [h, hf r h]
  · simp [h]

theorem outgoing_withoutTraits (id : ShapeId) :
    c.withoutTraits.index.outgoing id = (c.index.outgoing id).filter fun r => r.kind != .trait := by
  simp only [withoutTraits, NeighborIndex.withoutTraits, NeighborIndex.outgoing, List.filter_comm]

theorem incoming_withoutTraits (id : ShapeId) :
    c.withoutTraits.index.incoming id = (c.index.incoming id).filter fun r => r.kind != .trait := by
  simp only [withoutTraits, NeighborIndex.withoutTraits, NeighborIndex.incoming]
  exact List.filter_comm _ _ _

/-- Labels without `trait` accept no trait relationship; no labels accept none either. -/
theorem acceptsKind_trait {labels : List String} (h : labels.contains "trait" = false) :
    acceptsKind labels .trait = false := by
  unfold acceptsKind
  split
  · rfl
  · simpa [RelationshipType.label] using h

theorem step_withoutTraits (dir : Direction) {labels : List String} (h : labels.contains "trait" = false) :
    c.withoutTraits.step dir labels = c.step dir labels := by
  funext id
  cases dir
  · simp only [Context.step, outgoing_withoutTraits]
    exact filterMap_withoutTraits (fun r hr => by simp [hr, acceptsKind_trait h]) _
  · simp only [Context.step, incoming_withoutTraits]
    exact filterMap_withoutTraits (fun r hr => by simp [hr, acceptsKind_trait h]) _

theorem closure_withoutTraits : c.withoutTraits.closure = c.closure := by
  -- both walks take the same rounds
  have hround : c.withoutTraits.newNeighbors = c.newNeighbors := by
    funext seen frontier
    simp only [newNeighbors, step_withoutTraits c .forward (show ([] : List String).contains "trait" = false from rfl)]
  have hgrow : ∀ n seen frontier,
      closure.grow c.withoutTraits n seen frontier = closure.grow c n seen frontier := by
    intro n
    induction n with
    | zero => intro _ _; rfl
    | succ n ih => intro seen frontier; rw [grow_succ, grow_succ, hround, ih]
  funext root
  unfold Context.closure
  rw [hgrow]
  rfl

theorem bindings_withoutTraits (id : ShapeId) : c.withoutTraits.bindings id = c.bindings id := by
  simp only [bindings, outgoing_withoutTraits]
  exact filterMap_withoutTraits (fun r hr => by simp [hr]) _

theorem topDown_withoutTraits (qual disq : ShapeId → Bool) (n : Nat) :
    c.withoutTraits.topDown qual disq n = c.topDown qual disq n := by
  induction n with
  | zero => rfl
  | succ n ih =>
    funext id inh st
    obtain ⟨visited, out⟩ := st
    rw [topDown_succ, topDown_succ, bindings_withoutTraits, ih]

theorem marked_withoutTraits (qual disq : ShapeId → Bool) :
    c.withoutTraits.marked qual disq = c.marked qual disq := by
  funext r
  unfold marked
  rw [topDown_withoutTraits]
  rfl

/-- `:topdown` acts alike without trait relationships when its qualifier and
disqualifier do. -/
theorem apply_topDown_withoutTraits {q : List Step} {d : Option (List Step)}
    (hq : c.withoutTraits.yields q = c.yields q) (hd : c.withoutTraits.disqualifies d = c.disqualifies d)
    (input : List ShapeId) :
    c.withoutTraits.apply (.topDown q d) input = c.apply (.topDown q d) input := by
  rw [apply_topDown, apply_topDown, hq, hd, marked_withoutTraits]
  rfl

mutual

/-- A step that does not name `trait` acts alike without trait relationships. -/
theorem apply_withoutTraits : ∀ (s : Step), s.usesTraits = false →
    ∀ input, c.withoutTraits.apply s input = c.apply s input
  | .type _, _, _ => rfl
  | .attribute _ _, _, _ => rfl
  | .scoped _ _, _, _ => rfl
  | .neighbor dir labels, h, input => by
    simp only [Context.apply, step_withoutTraits c dir (by simpa [Step.usesTraits] using h)]
  | .recursive, _, input => by rw [Context.apply, Context.apply, closure_withoutTraits]
  | .is alts, h, input => by
    simp only [Context.apply, evalAlternatives_withoutTraits alts (by simpa [Step.usesTraits] using h)]
  | .not inner, h, input => by
    simp only [Context.apply, evalSteps_withoutTraits inner (by simpa [Step.usesTraits] using h)]
  | .test alts, h, input => by
    simp only [Context.apply, anyYields_withoutTraits alts (by simpa [Step.usesTraits] using h)]
  | .topDown q none, h, input => by
    have hq : stepsUseTraits q = false := by rwa [Step.usesTraits, Bool.or_false] at h
    refine apply_topDown_withoutTraits c ?_ rfl input
    funext id
    simp only [yields, evalSteps_withoutTraits q hq]
  | .topDown q (some d), h, input => by
    have hqd : stepsUseTraits q = false ∧ stepsUseTraits d = false :=
      Bool.or_eq_false_iff.mp h
    refine apply_topDown_withoutTraits c ?_ ?_ input
    · funext id
      simp only [yields, evalSteps_withoutTraits q hqd.1]
    · funext id
      simp only [disqualifies, yields, evalSteps_withoutTraits d hqd.2]

/-- Steps none of which names `trait` evaluate alike without trait relationships. -/
theorem evalSteps_withoutTraits : ∀ (steps : List Step), stepsUseTraits steps = false →
    ∀ input, c.withoutTraits.evalSteps steps input = c.evalSteps steps input
  | [], _, _ => rfl
  | s :: rest, h, input => by
    simp only [stepsUseTraits, Bool.or_eq_false_iff] at h
    simp only [Context.evalSteps, apply_withoutTraits s h.1, evalSteps_withoutTraits rest h.2]

theorem evalAlternatives_withoutTraits : ∀ (alts : List (List Step)), alternativesUseTraits alts = false →
    ∀ input, c.withoutTraits.evalAlternatives alts input = c.evalAlternatives alts input
  | [], _, _ => rfl
  | a :: rest, h, input => by
    simp only [alternativesUseTraits, Bool.or_eq_false_iff] at h
    simp only [Context.evalAlternatives, evalSteps_withoutTraits a h.1,
      evalAlternatives_withoutTraits rest h.2]

theorem anyYields_withoutTraits : ∀ (alts : List (List Step)), alternativesUseTraits alts = false →
    ∀ id, c.withoutTraits.anyYields alts id = c.anyYields alts id
  | [], _, _ => rfl
  | a :: rest, h, id => by
    simp only [alternativesUseTraits, Bool.or_eq_false_iff] at h
    simp only [Context.anyYields, evalSteps_withoutTraits a h.1, anyYields_withoutTraits rest h.2]

end

end Context

/-- **Trait relationships are walked only where named**: on every model, a
selector selects the same shapes, in the same order, from the index it builds
(with trait relationships only when some step names `trait`) as from the
index with every trait relationship. -/
theorem select_eq_evalSteps_withTraits (sel : Parsed) (m : Model) :
    sel.select m =
      (⟨m, NeighborIndex.build m true⟩ : Context).evalSteps sel.steps (m.shapes.map (·.id)) := by
  unfold Parsed.select
  cases h : sel.usesTraits
  · -- the index without trait relationships is the one with them, less those
    rw [← NeighborIndex.withoutTraits_build]
    exact Context.evalSteps_withoutTraits ⟨m, NeighborIndex.build m true⟩ sel.steps h _
  · rfl

end ShapeKit.Selector
