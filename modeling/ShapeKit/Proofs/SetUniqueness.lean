import ShapeKit.Proofs.NodeWalk
import ShapeKit.Proofs.ModelMembers
import ShapeKit.Proofs.CompactText

/-!
# Unique items of a set value

A value checked against a set shape must be an array whose items are unique.
The check compares the items' compact texts: it refuses the array, with the
problem `Set values of `S` must be unique` at the path of the array, exactly
when two items are written alike. On canonical items (keys in increasing
order, integers only) that is exactly when two items are equal
(`checkNode_set_duplicate_iff`).

Written alike is stricter than equal. Two objects with the same entries in
another order are equal values but are written differently, so a set of the
two passes (`checkNode_set_passes_reordered_objects`).

On the way: every problem a walk finds lies at or below the path it starts at
(`visitValue_below`), and the messages of the `length`, `range` and `pattern`
checks begin with `Value` or `String` (`constraintViolations_message`).
-/

namespace ShapeKit

open Json

/-! ## §1. Distinct texts -/

theorem length_eraseDups_le {α : Type} [BEq α] (l : List α) : l.eraseDups.length ≤ l.length := by
  match l with
  | [] => simp
  | a :: as =>
    have := length_eraseDups_le (as.filter fun b => !b == a)
    have := List.length_filter_le (fun b => !b == a) as
    rw [List.eraseDups_cons, List.length_cons, List.length_cons]
    omega
termination_by l.length
decreasing_by exact Nat.lt_succ_of_le (List.length_filter_le _ _)

/-- Removing repeats shortens exactly the lists that repeat an element. The
induction follows `eraseDups`: after the head, its copies are filtered out. -/
theorem length_eraseDups_eq_iff_nodup {α : Type} [BEq α] [LawfulBEq α] (l : List α) :
    l.eraseDups.length = l.length ↔ l.Nodup := by
  match l with
  | [] => simp
  | a :: as =>
    have hle := length_eraseDups_le (as.filter fun b => !b == a)
    have hf := List.length_filter_le (fun b => !b == a) as
    have ih := length_eraseDups_eq_iff_nodup (as.filter fun b => !b == a)
    rw [List.eraseDups_cons, List.length_cons, List.length_cons, List.nodup_cons]
    constructor
    · intro h
      -- no element was filtered out, so the head does not come again
      have hall := List.length_filter_eq_length_iff.1
        (show (as.filter fun b => !b == a).length = as.length by omega)
      rw [List.filter_eq_self.2 hall] at ih h
      exact ⟨fun ha => by simpa using hall a ha, ih.1 (by omega)⟩
    · rintro ⟨ha, hn⟩
      have hkeep : as.filter (fun b => !b == a) = as :=
        List.filter_eq_self.2 fun b hb => by
          simp only [Bool.not_eq_true', beq_eq_false_iff_ne]
          rintro rfl
          exact ha hb
      rw [hkeep] at ih ⊢
      rw [ih.2 hn]
termination_by l.length
decreasing_by exact Nat.lt_succ_of_le (List.length_filter_le _ _)

theorem distinctTexts_iff (items : List Node) :
    distinctTexts items = true ↔ (items.map Node.compact).Nodup := by
  rw [distinctTexts, beq_iff_eq, ← length_eraseDups_eq_iff_nodup, List.length_map]

/-- The images of a list repeat exactly when two of its elements, in order,
have one image. -/
theorem not_nodup_map_iff {α β : Type} (f : α → β) (l : List α) :
    ¬ (l.map f).Nodup ↔ ∃ x y, [x, y].Sublist l ∧ f x = f y := by
  rw [List.nodup_iff_sublist]
  push Not
  constructor
  · rintro ⟨a, ha⟩
    obtain ⟨l', hl', heq⟩ := List.sublist_map_iff.1 ha
    -- the sublist mapped onto `[a, a]` has two elements
    rcases l' with _ | ⟨x, _ | ⟨y, _ | ⟨z, l''⟩⟩⟩ <;> simp at heq
    exact ⟨x, y, hl', heq.1.symm.trans heq.2⟩
  · rintro ⟨x, y, hxy, hf⟩
    exact ⟨f x, List.sublist_map_iff.2 ⟨[x, y], hxy, by simp [hf]⟩⟩

/-! ## §2. Where a walk reports its problems -/

/-- An item of a `mapM` result in `Option` is the image of an item. -/
theorem exists_mem_of_mapM_eq_some {α β : Type} {f : α → Option β} :
    ∀ {xs : List α} {ys : List β}, xs.mapM f = some ys → ∀ y ∈ ys, ∃ x ∈ xs, f x = some y
  | [], ys, h => by
    simp only [List.mapM_nil] at h
    cases h
    simp
  | x :: xs, ys, h => by
    simp only [List.mapM_cons, Option.bind_eq_bind, Option.bind_eq_some_iff] at h
    obtain ⟨y, hy, ys', hys', h⟩ := h
    cases h
    intro z hz
    rcases List.mem_cons.1 hz with rfl | hz
    · exact ⟨x, List.mem_cons_self, hy⟩
    · obtain ⟨w, hw, hfw⟩ := exists_mem_of_mapM_eq_some hys' z hz
      exact ⟨w, List.mem_cons_of_mem x hw, hfw⟩

/-- Every problem of a list lies at or below a path: its path extends it. -/
def ReportedBelow (path : String) (vs : List NodeViolation) : Prop :=
  ∀ x ∈ vs, ∃ r, x.path = path ++ r

namespace ReportedBelow

variable {path : String} {vs ws : List NodeViolation}

theorem of_path_eq (h : ∀ x ∈ vs, x.path = path) : ReportedBelow path vs :=
  fun x hx => ⟨"", by rw [h x hx, String.append_empty]⟩

theorem append (hv : ReportedBelow path vs) (hw : ReportedBelow path ws) :
    ReportedBelow path (vs ++ ws) := by
  intro x hx
  rcases List.mem_append.1 hx with hx | hx
  exacts [hv x hx, hw x hx]

theorem flatten {L : List (List NodeViolation)} (h : ∀ vs ∈ L, ReportedBelow path vs) :
    ReportedBelow path L.flatten := by
  intro x hx
  obtain ⟨vs, hvs, hx⟩ := List.mem_flatten.1 hx
  exact h vs hvs x hx

theorem of_extended {p : String} (h : ReportedBelow p vs) (hp : ∃ r, p = path ++ r) :
    ReportedBelow path vs := by
  obtain ⟨r, rfl⟩ := hp
  intro x hx
  obtain ⟨r', hr'⟩ := h x hx
  exact ⟨r ++ r', by rw [hr', String.append_assoc]⟩

/-- Below a path that is not the top, no problem is at the top. -/
theorem path_ne_empty (h : ReportedBelow path vs) (hp : path ≠ "") : ∀ x ∈ vs, x.path ≠ "" := by
  intro x hx hempty
  obtain ⟨r, hr⟩ := h x hx
  have := congrArg String.length (hr.symm.trans hempty)
  simp only [String.length_append, String.length_empty] at this
  exact hp (String.length_eq_zero_iff.1 (by omega))

/-- The walks of the parts of a value, each below the path, lie below it together. -/
theorem of_mapM {α : Type} {f : α → Option (List NodeViolation)} {xs : List α}
    {out : List (List NodeViolation)} (h : xs.mapM f = some out)
    (hf : ∀ x ∈ xs, ∀ vs, f x = some vs → ReportedBelow path vs) : ReportedBelow path out.flatten :=
  flatten fun vs hvs =>
    let ⟨x, hx, hfx⟩ := exists_mem_of_mapM_eq_some h vs hvs
    hf x hx vs hfx

end ReportedBelow

theorem joinPath_extends (path key : String) : ∃ r, joinPath path key = path ++ r := by
  unfold joinPath
  split
  · next h => exact ⟨key, by rw [String.isEmpty_iff.1 h, String.empty_append]⟩
  · exact ⟨"." ++ key, by rw [← String.append_assoc]; rfl⟩

theorem constraintViolations_path {s : Shape} {v : Node} {path : String} :
    ∀ x ∈ constraintViolations s v path, x.path = path := by
  intro x hx
  simp only [constraintViolations, List.mem_map] at hx
  obtain ⟨_, _, rfl⟩ := hx
  rfl

/-- The `length` and `range` messages begin with `Value`, the `pattern` message
with `String`. -/
theorem constraintViolations_message {s : Shape} {v : Node} {path : String} :
    ∀ x ∈ constraintViolations s v path,
      x.message.toList.take 2 = ['V', 'a'] ∨ x.message.toList.take 2 = ['S', 't'] := by
  simp only [constraintViolations, List.forall_mem_map, List.forall_mem_append]
  refine ⟨⟨?_, ?_⟩, ?_⟩ <;> repeat' split
  all_goals simp [toString, String.toList_append]

open ReportedBelow in
/-- Every problem a walk finds lies at or below the path the walk starts at: a
member keeps the path, an item adds `[i]` and an entry `.key`. The induction is
on the fuel, one case per kind of shape. -/
theorem visitValue_below {m : Model} : ∀ {fuel : Nat} {v : Node} {id : ShapeId} {path : String}
    {vs : List NodeViolation}, visitValue m fuel v id path = some vs → ReportedBelow path vs
  | 0, _, _, _, _, h => by simp [visitValue] at h
  | fuel + 1, v, id, path, vs, h => by
    have ih : ∀ {v id path vs}, visitValue m fuel v id path = some vs → ReportedBelow path vs :=
      visitValue_below
    have hc : ∀ s v, ReportedBelow path (constraintViolations s v path) := fun _ _ =>
      of_path_eq constraintViolations_path
    cases hs : m.get? id with
    | none =>
      rw [visitValue_unresolved hs] at h
      cases h
      exact of_path_eq (by simp)
    | some s =>
      cases hb : s.body with
      | member t =>
        rw [visitValue_member hs hb] at h
        obtain ⟨inner, hi, rfl⟩ := Option.map_eq_some_iff.1 h
        exact (hc s v).append (ih hi)
      | simple t =>
        simp only [visitValue, hs, hb, Option.some.injEq] at h
        subst h
        exact (of_path_eq (by simp)).append (hc s v)
      | list mm | set mm =>
        cases v <;> simp [visitValue, hs, hb] at h <;> try (subst h; exact of_path_eq (by simp))
        obtain ⟨out, hout, rfl⟩ := h
        refine (of_path_eq ?_).append ((of_mapM hout ?_).append (hc s _))
        · intro x hx
          split at hx <;> simp_all
        · rintro ⟨item, i⟩ - ws hws
          exact (ih hws).of_extended ⟨"[" ++ (i.repr ++ "]"), by simp only [String.append_assoc]; rfl⟩
      | map k val =>
        cases v <;> simp [visitValue, hs, hb] at h <;> try (subst h; exact of_path_eq (by simp))
        obtain ⟨out, hout, rfl⟩ := h
        refine (of_mapM hout ?_).append (hc s _)
        rintro ⟨key, x⟩ - ws hws
        simp only [Option.bind_eq_some_iff, Option.some.injEq] at hws
        obtain ⟨ki, hki, vi, hvi, rfl⟩ := hws
        exact ((ih hki).append (ih hvi)).of_extended (joinPath_extends path key)
      | «structure» ms =>
        cases v <;> simp [visitValue, hs, hb] at h <;> try (subst h; exact of_path_eq (by simp))
        obtain ⟨out, hout, rfl⟩ := h
        refine (of_path_eq ?_).append ((of_mapM hout ?_).append (hc s _))
        · intro x hx
          simp only [List.mem_filterMap] at hx
          obtain ⟨_, _, hx⟩ := hx
          split at hx <;> cases hx
          rfl
        · rintro ⟨key, x⟩ - ws hws
          split at hws
          · exact (ih hws).of_extended (joinPath_extends path key)
          · cases hws
            exact of_path_eq (by simp)
      | union ms =>
        cases v <;> simp [visitValue, hs, hb] at h <;> try (subst h; exact of_path_eq (by simp))
        obtain ⟨out, hout, rfl⟩ := h
        refine (of_path_eq ?_).append ((of_mapM hout ?_).append (hc s _))
        · intro x hx
          split at hx <;> simp_all
        · rintro ⟨key, x⟩ - ws hws
          split at hws
          · exact (ih hws).of_extended (joinPath_extends path key)
          · cases hws
            exact of_path_eq (by simp)
      | operation _ | resource _ | service _ =>
        simp [visitValue, hs, hb] at h
        subst h
        exact of_path_eq (by simp)

/-! ## §3. The set check -/

/-- One step of the walk of an array against a set shape. -/
theorem visitValue_set {m : Model} {fuel : Nat} {id : ShapeId} {s : Shape} {mm : Member}
    (hs : m.get? id = some s) (hb : s.body = .set mm) (items : List Node) (path : String) :
    visitValue m (fuel + 1) (.arr items) id path =
      (fun inner =>
        (if distinctTexts items then [] else [⟨path, s!"Set values of `{s.id.text}` must be unique"⟩]) ++
          inner.flatten ++ constraintViolations s (.arr items) path) <$>
        items.zipIdx.mapM fun (item, i) => visitValue m fuel item mm.id s!"{path}[{i}]" := by
  have ht : s.type = .set := by simp [Shape.type, hb, Body.type]
  simp only [visitValue, hs, hb, ht]
  cases distinctTexts items <;> rfl

/-- A set value is refused for repeated items exactly when the compact texts
of its items repeat. -/
theorem checkNode_set_violation_iff {m : Model} {id : ShapeId} {s : Shape} {mm : Member}
    (hs : m.get? id = some s) (hb : s.body = .set mm) {items : List Node} {vs : List NodeViolation}
    (h : checkNode m (.arr items) id = some vs) :
    (⟨"", s!"Set values of `{id.text}` must be unique"⟩ : NodeViolation) ∈ vs ↔
      ¬ (items.map Node.compact).Nodup := by
  obtain ⟨fuel, hfuel⟩ : ∃ fuel, (m.size + 1) * nodeSize (.arr items) = fuel + 1 :=
    Nat.exists_eq_add_one_of_ne_zero
      (Nat.pos_iff_ne_zero.1 (Nat.mul_pos (Nat.succ_pos _) (nodeSize_pos _)))
  rw [checkNode, hfuel, visitValue_set hs hb, Model.id_of_get? hs] at h
  obtain ⟨inner, hinner, rfl⟩ := Option.map_eq_some_iff.1 h
  -- the items' problems lie below `[i]`, so none is at the top
  have hinner_ne : ∀ x ∈ inner.flatten, x.path ≠ "" := by
    intro x hx
    obtain ⟨ws, hws, hx⟩ := List.mem_flatten.1 hx
    obtain ⟨⟨item, i⟩, -, hw⟩ := exists_mem_of_mapM_eq_some hinner ws hws
    exact (visitValue_below hw).path_ne_empty (by simp [toString]) x hx
  -- the constraint messages begin otherwise
  have hcons_ne : ∀ x ∈ constraintViolations s (.arr items) "",
      x.message ≠ s!"Set values of `{id.text}` must be unique" := by
    intro x hx heq
    have := constraintViolations_message x hx
    rw [heq] at this
    simp [toString, String.toList_append] at this
  rw [List.mem_append, List.mem_append, ← distinctTexts_iff]
  constructor
  · rintro ((h1 | h1) | h1)
    · split at h1 <;> simp_all
    · exact absurd rfl (hinner_ne _ h1)
    · exact absurd rfl (hcons_ne _ h1)
  · intro hd
    simp [hd]

/-- A set value is refused for repeated items exactly when two of its items
are written alike; and when every item is canonical, exactly when two of its
items are equal values. -/
theorem checkNode_set_duplicate_iff {m : Model} {id : ShapeId} {s : Shape} {mm : Member}
    (hs : m.get? id = some s) (hb : s.body = .set mm) {items : List Node} {vs : List NodeViolation}
    (h : checkNode m (.arr items) id = some vs) :
    ((⟨"", s!"Set values of `{id.text}` must be unique"⟩ : NodeViolation) ∈ vs ↔
        ∃ x y, [x, y].Sublist items ∧ x.compact = y.compact) ∧
      ((∀ x ∈ items, x.Canonical) →
        ((⟨"", s!"Set values of `{id.text}` must be unique"⟩ : NodeViolation) ∈ vs ↔
          ∃ x y, [x, y].Sublist items ∧ x.equal y = true)) := by
  have htexts := (checkNode_set_violation_iff hs hb h).trans (not_nodup_map_iff Node.compact items)
  refine ⟨htexts, fun hcan => htexts.trans ?_⟩
  -- two canonical items are written alike exactly when they are equal
  refine exists_congr fun x => exists_congr fun y => and_congr_right fun hxy => ?_
  have hx := hcan x (hxy.subset (by simp))
  have hy := hcan y (hxy.subset (by simp))
  exact (hx.equal_iff_compact_eq hy).symm

/-- A model with one set of documents, `ns#S`. -/
def documentSetModel : Model :=
  ⟨[⟨⟨"ns", "S", none⟩, .set documentSetMember, [], .none⟩, documentSetMember.toShape,
    ⟨⟨"smithy.api", "Document", none⟩, .simple .document, [], .none⟩], []⟩
where
  /-- The member of `ns#S`, which targets the prelude's `Document`. -/
  documentSetMember : Member := ⟨⟨"ns", "S", some "member"⟩, ⟨"smithy.api", "Document", none⟩, [], .none⟩

/-- An object with its keys in order, repeated around a negative integer in a
set of documents: the array is refused, and the two objects are equal values. -/
theorem checkNode_set_duplicate_iff_repeated_object :
    checkNode documentSetModel
        (.arr [.obj [("a", .num (.nat 1)), ("b", .str "x")], .num (.neg (-3)),
          .obj [("a", .num (.nat 1)), ("b", .str "x")]]) ⟨"ns", "S", none⟩ =
        some [⟨"", "Set values of `ns#S` must be unique"⟩] ∧
      (∀ x ∈ [Node.obj [("a", .num (.nat 1)), ("b", .str "x")], .num (.neg (-3)),
          .obj [("a", .num (.nat 1)), ("b", .str "x")]], x.Canonical) ∧
      ((⟨"", "Set values of `ns#S` must be unique"⟩ : NodeViolation) ∈
          [⟨"", "Set values of `ns#S` must be unique"⟩] ↔
        ∃ x y, [x, y].Sublist [Node.obj [("a", .num (.nat 1)), ("b", .str "x")], .num (.neg (-3)),
          .obj [("a", .num (.nat 1)), ("b", .str "x")]] ∧ x.equal y = true) := by
  have hcheck : checkNode documentSetModel
      (.arr [.obj [("a", .num (.nat 1)), ("b", .str "x")], .num (.neg (-3)),
        .obj [("a", .num (.nat 1)), ("b", .str "x")]]) ⟨"ns", "S", none⟩ =
      some [⟨"", "Set values of `ns#S` must be unique"⟩] := by decide
  have hobj : (Node.obj [("a", .num (.nat 1)), ("b", .str "x")]).Canonical :=
    .obj (by decide) (by simp [Node.Canonical.nat, Node.Canonical.str])
  have hcan : ∀ x ∈ [Node.obj [("a", .num (.nat 1)), ("b", .str "x")], .num (.neg (-3)),
      .obj [("a", .num (.nat 1)), ("b", .str "x")]], x.Canonical := by
    simp only [List.mem_cons, List.not_mem_nil, or_false]
    rintro x (rfl | rfl | rfl)
    exacts [hobj, .neg (by decide), hobj]
  exact ⟨hcheck, hcan, (checkNode_set_duplicate_iff (m := documentSetModel) rfl rfl hcheck).2 hcan⟩

/-- Two objects with the same entries in another order are equal values, yet a
set of documents holding both passes: their texts differ. -/
theorem checkNode_set_passes_reordered_objects :
    Node.equal (.obj [("a", .num (.nat 1)), ("b", .num (.nat 2))])
        (.obj [("b", .num (.nat 2)), ("a", .num (.nat 1))]) = true ∧
      checkNode documentSetModel
        (.arr [.obj [("a", .num (.nat 1)), ("b", .num (.nat 2))], .obj [("b", .num (.nat 2)), ("a", .num (.nat 1))]])
        ⟨"ns", "S", none⟩ = some [] := by
  decide

end ShapeKit
