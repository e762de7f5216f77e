import Mathlib.Data.List.Nodup
import Mathlib.Data.Sym.Sym2
import ShapeKit.Proofs.Keyed
import ShapeKit.Proofs.ModelMembers
import ShapeKit.Proofs.RecursionCycles
import ShapeKit.Validation.Builtin

/-!
# Conflicting traits, once per pair

A trait definition may list traits it conflicts with. `checkTraitConflicts`
walks the traits of each user shape, and for each one with a definition, each
trait it conflicts with that the shape has too; the pair is written with the
lesser ID first (`ShapeId.orderPair`), the pairs are sorted and repeats
dropped, and each pair left is one event.

A conflict may be declared on one side or on both, so one unordered pair can
be found twice, once from each trait. Written lesser first, the two finds are
one pair, and the dropped repeats leave it once: the unordered pairs of the
events (`Sym2`) are distinct, and they are exactly the pairs of traits the
shape has where either one's definition lists the other.

Main statement: `checkTraitConflicts_once_per_pair`.
-/

namespace ShapeKit

/-! ## §1. Pairs written lesser first -/

namespace ShapeId

/-- A pair of IDs, the lesser first. -/
def orderPair (a b : ShapeId) : ShapeId × ShapeId := if ShapeId.lt a b then (a, b) else (b, a)

/-- Ordering a pair keeps it as an unordered pair. -/
theorem mk_orderPair (a b : ShapeId) : s((orderPair a b).1, (orderPair a b).2) = s(a, b) := by
  unfold orderPair
  split
  · rfl
  · exact Sym2.eq_swap

theorem le_orderPair (a b : ShapeId) : ShapeId.le (orderPair a b).1 (orderPair a b).2 = true := by
  unfold orderPair ShapeId.lt
  rw [ShapeId.le_eq_isLE]
  split
  · next h =>
    simp only [beq_iff_eq] at h
    simp [h]
  · next h =>
    -- `a` is not below `b`, so `b` is not above `a`
    simp only [beq_iff_eq] at h
    rw [Ordering.isLE_iff_ne_gt]
    exact fun hgt => h (Std.OrientedCmp.gt_iff_lt.mp hgt)

/-- Two pairs written lesser first are the same pair when they are the same
unordered pair. -/
theorem eq_of_mk_eq {p q : ShapeId × ShapeId} (hp : ShapeId.le p.1 p.2 = true)
    (hq : ShapeId.le q.1 q.2 = true) (h : s(p.1, p.2) = s(q.1, q.2)) : p = q := by
  obtain ⟨a, b⟩ := p
  obtain ⟨c, d⟩ := q
  rcases Sym2.eq_iff.mp h with ⟨rfl, rfl⟩ | ⟨rfl, rfl⟩
  · rfl
  · -- swapped: both orders hold, so the two IDs are one
    rw [ShapeId.le_eq_isLE] at hp hq
    have hab : a = b := ShapeId.compare_eq_iff_eq.mp (Std.OrientedCmp.isLE_antisymm hp hq)
    subst hab
    rfl

end ShapeId

/-! ## §2. The pairs found on a shape -/

/-- Trait `a`'s definition in the model lists `b` among the traits it conflicts with. -/
def Model.declaresConflict (m : Model) (a b : ShapeId) : Bool :=
  match m.traitDefinition? a with
  | some d => d.conflicts.contains b
  | none => false

theorem Model.declaresConflict_iff {m : Model} {a b : ShapeId} :
    m.declaresConflict a b = true ↔ ∃ d, m.traitDefinition? a = some d ∧ b ∈ d.conflicts := by
  unfold Model.declaresConflict
  cases m.traitDefinition? a <;> simp

theorem Model.lookup_traitDefinitions (m : Model) (k : ShapeId) :
    m.traitDefinitions.lookup k = m.traitDefinition? k :=
  Keyed.lookup_eq_find? _ _

theorem Shape.hasTrait_iff {s : Shape} {k : ShapeId} : s.hasTrait k = true ↔ ∃ t ∈ s.traits, t.id = k := by
  simp [Shape.hasTrait, TraitMap.contains]

/-- The pairs the check finds on a shape, in the order it finds them: for each
trait with a definition, each trait it conflicts with that the shape has too. -/
def foundConflicts (m : Model) (s : Shape) : List (ShapeId × ShapeId) :=
  s.traits.flatMap fun t =>
    match m.traitDefinitions.lookup t.id with
    | some d =>
      d.conflicts.filterMap fun other =>
        if s.hasTrait other then some (ShapeId.orderPair t.id other) else none
    | none => []

/-- The pairs the check reports on a shape: those found, sorted, each once. -/
def conflictPairs (m : Model) (s : Shape) : List (ShapeId × ShapeId) :=
  ((foundConflicts m s).mergeSort fun a b =>
    match ShapeId.compare a.1 b.1 with
    | .lt => true
    | .gt => false
    | .eq => ShapeId.le a.2 b.2).eraseDups

/-- The event reporting a pair on a shape. -/
def conflictEvent (s : Shape) (p : ShapeId × ShapeId) : Event :=
  shapeEvent "TraitConflict" .error s
    s!"Found conflicting traits on {s.type.name} shape: {ticked [p.1.name, p.2.name]}"

theorem checkTraitConflicts_eq (m : Model) :
    checkTraitConflicts m = (userShapes m).flatMap fun s => (conflictPairs m s).map (conflictEvent s) :=
  rfl

/-! ## §3. Each conflicting pair once -/

section Pairs

variable {m : Model} {s : Shape}

theorem mem_foundConflicts {p : ShapeId × ShapeId} :
    p ∈ foundConflicts m s ↔ ∃ t ∈ s.traits, ∃ other, m.declaresConflict t.id other = true ∧
      s.hasTrait other = true ∧ ShapeId.orderPair t.id other = p := by
  simp only [foundConflicts, List.mem_flatMap, Model.lookup_traitDefinitions]
  constructor
  · rintro ⟨t, ht, hp⟩
    cases hd : m.traitDefinition? t.id with
    | none => simp [hd] at hp
    | some d =>
      simp only [hd, List.mem_filterMap, Option.ite_none_right_eq_some, Option.some.injEq] at hp
      obtain ⟨other, ho, hs, rfl⟩ := hp
      exact ⟨t, ht, other, Model.declaresConflict_iff.mpr ⟨d, hd, ho⟩, hs, rfl⟩
  · rintro ⟨t, ht, other, hc, hs, rfl⟩
    obtain ⟨d, hd, ho⟩ := Model.declaresConflict_iff.mp hc
    refine ⟨t, ht, ?_⟩
    simp only [hd, List.mem_filterMap, Option.ite_none_right_eq_some, Option.some.injEq]
    exact ⟨other, ho, hs, rfl⟩

/-- Sorting and dropping repeats keeps the pairs found. -/
theorem mem_conflictPairs {p : ShapeId × ShapeId} : p ∈ conflictPairs m s ↔ p ∈ foundConflicts m s := by
  simp [conflictPairs, List.mem_eraseDups, List.mem_mergeSort]

/-- Every pair reported is written lesser first. -/
theorem le_of_mem_conflictPairs {p : ShapeId × ShapeId} (hp : p ∈ conflictPairs m s) :
    ShapeId.le p.1 p.2 = true := by
  obtain ⟨t, -, other, -, -, rfl⟩ := mem_foundConflicts.mp (mem_conflictPairs.mp hp)
  exact ShapeId.le_orderPair _ _

/-- The unordered pairs reported are the pairs of traits of the shape where
either one's definition lists the other. -/
theorem mk_mem_conflictPairs_iff {a b : ShapeId} :
    s(a, b) ∈ (conflictPairs m s).map (fun p => s(p.1, p.2)) ↔
      s.hasTrait a = true ∧ s.hasTrait b = true ∧
        (m.declaresConflict a b = true ∨ m.declaresConflict b a = true) := by
  simp only [List.mem_map, mem_conflictPairs, mem_foundConflicts]
  constructor
  · rintro ⟨_, ⟨t, ht, other, hc, ho, rfl⟩, he⟩
    have htr : s.hasTrait t.id = true := Shape.hasTrait_iff.mpr ⟨t, ht, rfl⟩
    rw [ShapeId.mk_orderPair, Sym2.eq_iff] at he
    rcases he with ⟨rfl, rfl⟩ | ⟨rfl, rfl⟩
    · exact ⟨htr, ho, .inl hc⟩
    · exact ⟨ho, htr, .inr hc⟩
  · rintro ⟨ha, hb, hc | hc⟩
    · obtain ⟨t, ht, rfl⟩ := Shape.hasTrait_iff.mp ha
      exact ⟨_, ⟨t, ht, b, hc, hb, rfl⟩, ShapeId.mk_orderPair _ _⟩
    · obtain ⟨t, ht, rfl⟩ := Shape.hasTrait_iff.mp hb
      exact ⟨_, ⟨t, ht, a, hc, ha, rfl⟩, (ShapeId.mk_orderPair _ _).trans Sym2.eq_swap⟩

/-- No unordered pair is reported twice: the pairs are distinct once repeats
are dropped, and written lesser first two distinct pairs are distinct unordered. -/
theorem conflictPairs_nodup_unordered :
    ((conflictPairs m s).map (fun p => s(p.1, p.2))).Nodup :=
  (nodup_eraseDups _).map_on fun _ hp _ hq h =>
    ShapeId.eq_of_mk_eq (le_of_mem_conflictPairs hp) (le_of_mem_conflictPairs hq) h

end Pairs

/-- **Trait conflicts are reported once per pair.** The events are, shape by
user shape, one per pair of `conflictPairs`; on every shape these pairs are
distinct as unordered pairs, and they are exactly the unordered pairs `{a, b}`
of traits the shape has where `a`'s definition lists `b` or `b`'s lists `a`. -/
theorem checkTraitConflicts_once_per_pair (m : Model) :
    checkTraitConflicts m =
        (userShapes m).flatMap (fun s => (conflictPairs m s).map (conflictEvent s)) ∧
      ∀ s : Shape, ((conflictPairs m s).map (fun p => s(p.1, p.2))).Nodup ∧
        ∀ a b : ShapeId, s(a, b) ∈ (conflictPairs m s).map (fun p => s(p.1, p.2)) ↔
          s.hasTrait a = true ∧ s.hasTrait b = true ∧
            (m.declaresConflict a b = true ∨ m.declaresConflict b a = true) :=
  ⟨checkTraitConflicts_eq m, fun _ => ⟨conflictPairs_nodup_unordered, fun _ _ => mk_mem_conflictPairs_iff⟩⟩

end ShapeKit
