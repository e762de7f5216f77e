import ShapeKit.Load.Loader

/-!
# Building shapes keeps their representation invariant

Every shape a builder produces is *well formed*: only a member has a member ID,
each member of an aggregate is `id$name` of it, member names are pairwise
distinct, lists and sets hold exactly `member`, maps exactly `key` and `value`,
and other non-aggregate types none. A well-formed shape builds back to itself,
both from `Shape.toBuilder` and from its pending form `PendingShape.ofShape`.

The invariant of the builders themselves is `Builder.Valid`: the collected
members are well-formed shapes with pairwise distinct IDs. Every setter keeps
it, and `build` turns it into well-formedness, whatever the order of the calls.

Main statements:
  * `Builder.build_wellFormed` — a valid builder builds only well-formed shapes.
  * `Shape.toBuilder_build`, `PendingShape.ofShape_build` — the two rebuild
    round trips of a well-formed shape.
  * `BuilderCall.run_build_wellFormed` — the same for every sequence of calls.
-/

namespace ShapeKit

/-! ## §1. Success of `Except` steps -/

namespace Except

variable {ε α β : Type}

@[simp] theorem bind_eq_ok {x : Except ε α} {f : α → Except ε β} {b : β} :
    x >>= f = .ok b ↔ ∃ a, x = .ok a ∧ f a = .ok b := by
  cases x <;> simp [bind, Except.bind]

@[simp] theorem pure_eq_ok {a b : α} : (pure a : Except ε α) = .ok b ↔ a = b := by
  simp [pure, Except.pure]

@[simp] theorem map_eq_ok {x : Except ε α} {f : α → β} {b : β} :
    f <$> x = .ok b ↔ ∃ a, x = .ok a ∧ f a = b := by
  cases x <;> simp [Functor.map, Except.map]

/-- A traversal succeeds exactly when every step succeeds. -/
theorem forM_eq_ok {xs : List α} {g : α → Except ε Unit} :
    forM xs g = .ok () ↔ ∀ x ∈ xs, g x = .ok () := by
  induction xs with
  | nil => simp [pure, Except.pure]
  | cons x xs ih =>
      simp only [List.forM_cons, bind_eq_ok, ih, List.mem_cons, forall_eq_or_imp]
      constructor
      · rintro ⟨⟨⟩, hx, hs⟩
        exact ⟨hx, hs⟩
      · rintro ⟨hx, hs⟩
        exact ⟨(), hx, hs⟩

end Except

/-! ## §2. Well-formed shapes -/

/-- The member names a shape of a type has, in order; `none` where any distinct
names will do (structures and unions). -/
def ShapeType.fixedMembers : ShapeType → Option (List String)
  | .list | .set => some ["member"]
  | .map => some ["key", "value"]
  | .structure | .union => none
  | _ => some []

theorem ShapeType.fixedMembers_nodup {t : ShapeType} {names : List String}
    (h : t.fixedMembers = some names) : (names.map some).Nodup := by
  cases t <;> simp only [fixedMembers, Option.some.injEq, reduceCtorEq] at h <;> subst h <;> decide

/-- The representation invariant of shapes: what every built shape satisfies. -/
structure Shape.WellFormed (s : Shape) : Prop where
  /-- The ID is a member ID exactly for a member shape. -/
  id_isMember : s.id.isMember = s.isMember
  /-- A body of one of the simple types holds a simple type. -/
  simple : ∀ t, s.body = .simple t → t.isSimple = true
  /-- Each member is `id$name` of this shape. -/
  member_id : ∀ m ∈ s.memberShapes, m.id.isMember = true ∧ m.id.withoutMember = s.id
  /-- Member names are pairwise distinct. -/
  names_nodup : (s.memberShapes.map (·.memberName)).Nodup
  /-- Lists and sets hold `member`, maps `key` then `value`, other
  non-aggregate types nothing. -/
  fixed : ∀ names, s.type.fixedMembers = some names →
    s.memberShapes.map (·.memberName) = names.map some

namespace Shape

theorem memberShapes_eq (s : Shape) : s.memberShapes = s.body.members.map Member.toShape := rfl

@[simp] theorem memberShapes_isMember {s m : Shape} (h : m ∈ s.memberShapes) :
    m.isMember = true := by
  obtain ⟨x, -, rfl⟩ := List.mem_map.mp h
  rfl

/-- A member ID is its container's ID with the member name set. -/
theorem id_eq_of_withoutMember {x c : ShapeId} (h : x.withoutMember = c) :
    x = { c with member := x.member } := by
  subst h
  rfl

/-- Members of one container with distinct names have distinct IDs, and back. -/
theorem ids_nodup_iff_names_nodup {c : ShapeId} {ms : List Shape}
    (h : ∀ m ∈ ms, m.id.withoutMember = c) :
    (ms.map (·.id)).Nodup ↔ (ms.map (·.memberName)).Nodup := by
  have hinj : ∀ x ∈ ms, ∀ y ∈ ms, x.memberName = y.memberName → x.id = y.id := by
    intro x hx y hy hxy
    rw [id_eq_of_withoutMember (h x hx), id_eq_of_withoutMember (h y hy)]
    exact congrArg (fun n => { c with member := n }) hxy
  constructor
  · intro hn
    rw [List.nodup_iff_pairwise_ne, List.pairwise_map] at hn ⊢
    exact hn.imp_of_mem fun hx hy hne heq => hne (hinj _ hx _ hy heq)
  · intro hn
    rw [List.nodup_iff_pairwise_ne, List.pairwise_map] at hn ⊢
    exact hn.imp_of_mem fun _ _ hne heq => hne (congrArg ShapeId.member heq)

/-- A well-formed member shape has a target. -/
theorem WellFormed.target_isSome {s : Shape} (hs : s.WellFormed) (hm : s.isMember = true) :
    s.target.isSome = true := by
  rcases s with ⟨id, body, traits, source⟩
  cases body with
  | simple t =>
      have := hs.simple t rfl
      cases t <;> simp_all [isMember, type, Body.type, ShapeType.isSimple, ShapeType.index]
  | member t => rfl
  | _ => simp_all [isMember, type, Body.type]

end Shape

/-- A member's own shape is well formed when its ID is a member ID. -/
theorem Member.toShape_wellFormed {m : Member} (h : m.id.isMember = true) :
    m.toShape.WellFormed where
  id_isMember := h
  simple := by simp [Member.toShape]
  member_id := by simp [Member.toShape, Shape.memberShapes, Body.members]
  names_nodup := by simp [Member.toShape, Shape.memberShapes, Body.members]
  fixed := by
    intro names hn
    simp only [Member.toShape, Shape.type, Body.type, ShapeType.fixedMembers,
      Option.some.injEq] at hn
    simp [← hn, Member.toShape, Shape.memberShapes, Body.members]

/-! ## §3. Valid builders -/

/-- The invariant of builders: the collected members are well-formed shapes with
pairwise distinct IDs. -/
structure Builder.Valid (b : Builder) : Prop where
  members_wf : ∀ m ∈ b.members, m.WellFormed
  ids_nodup : (b.members.map (·.id)).Nodup

namespace Builder

theorem Valid.of_members_eq {b b' : Builder} (hb : b.Valid) (h : b'.members = b.members) :
    b'.Valid :=
  ⟨h ▸ hb.members_wf, h ▸ hb.ids_nodup⟩

theorem new_valid (t : ShapeType) : (Builder.new t).Valid :=
  ⟨by simp [Builder.new], by simp [Builder.new]⟩

@[simp] theorem fail_members (b : Builder) (e : ShapeError) : (b.fail e).members = b.members := by
  unfold fail
  split <;> rfl

/-- Putting a well-formed member keeps the builder valid: a member with the same
ID is replaced in place, any other is appended. -/
theorem Valid.pushMember {b : Builder} {m : Shape} (hb : b.Valid) (hm : m.WellFormed) :
    (b.pushMember m).Valid := by
  unfold Builder.pushMember
  split
  · next hany =>
      constructor
      · intro x hx
        obtain ⟨y, hy, rfl⟩ := List.mem_map.mp hx
        split
        · exact hm
        · exact hb.members_wf y hy
      · have hids : (b.members.map fun x => if x.id == m.id then m else x).map (·.id) =
            b.members.map (·.id) := by
          rw [List.map_map]
          apply List.map_congr_left
          intro x _
          simp only [Function.comp_apply]
          split
          · next h => exact (beq_iff_eq.mp h).symm
          · rfl
        rw [hids]
        exact hb.ids_nodup
  · next hany =>
      constructor
      · intro x hx
        rcases List.mem_append.mp hx with hx | hx
        · exact hb.members_wf x hx
        · rw [List.mem_singleton.mp hx]
          exact hm
      · rw [List.map_append, List.nodup_append]
        refine ⟨hb.ids_nodup, by simp, ?_⟩
        intro a ha c hc
        simp only [List.map_cons, List.map_nil, List.mem_singleton] at hc
        subst hc
        obtain ⟨x, hx, rfl⟩ := List.mem_map.mp ha
        intro heq
        exact hany (List.any_eq_true.mpr ⟨x, hx, beq_iff_eq.mpr heq⟩)

theorem Valid.removeMember {b : Builder} (hb : b.Valid) (name : String) :
    (b.removeMember name).Valid :=
  ⟨fun m hm => hb.members_wf m (List.mem_filter.mp hm).1,
   (List.filter_sublist.map Shape.id).nodup hb.ids_nodup⟩

end Builder

/-! ## §4. What a successful build consists of -/

namespace Builder

theorem checkId_eq_ok {t : ShapeType} {id : ShapeId} :
    checkId t id = .ok () ↔ id.isMember = (t == .member) := by
  unfold checkId
  cases t <;> cases id.isMember <;> simp

theorem checkMember_eq_ok {t : ShapeType} {id : ShapeId} {m : Shape} :
    checkMember t id m = .ok () ↔ m.isMember = true ∧ m.id.withoutMember = id ∧
      memberAllowed t (m.id.member.getD "") = true := by
  unfold checkMember
  by_cases h1 : m.isMember = true <;> by_cases h2 : m.id.withoutMember = id <;> simp [h1, h2]

/-- A build succeeds when nothing was held back, an ID is set, the ID and every
collected member pass their checks, and the body can be made. -/
theorem build_eq_ok {b : Builder} {s : Shape} :
    b.build = .ok s ↔ b.error = none ∧ ∃ id, b.id = some id ∧
      checkId b.type id = .ok () ∧ (∀ m ∈ b.members, checkMember b.type id m = .ok ()) ∧
      ∃ body, b.bodyFor id = .ok body ∧ s = ⟨id, body, b.traits, b.source⟩ := by
  unfold build
  split
  · simp_all
  · simp_all
  · next he hid =>
      simp only [he, hid, Except.bind_eq_ok, Except.pure_eq_ok, Option.some.injEq, true_and,
        exists_eq_left']
      constructor
      · rintro ⟨⟨⟩, hcheck, ⟨⟩, hmembers, body, hbody, rfl⟩
        exact ⟨hcheck, Except.forM_eq_ok.mp hmembers, body, hbody, rfl⟩
      · rintro ⟨hcheck, hmembers, body, hbody, rfl⟩
        exact ⟨(), hcheck, (), Except.forM_eq_ok.mpr hmembers, body, hbody, rfl⟩

theorem takeMember_eq_ok {ms : List Shape} {t : ShapeType} {id : ShapeId} {name : String}
    {m : Shape} {rest : List Shape} (h : takeMember ms t id name = .ok (m, rest)) :
    m ∈ ms ∧ m.id.member = some name ∧
      rest = ms.filter (fun x => x.id.member != some name || x.id != m.id) := by
  unfold takeMember at h
  split at h
  · next x hx =>
      simp only [Except.ok.injEq, Prod.mk.injEq] at h
      obtain ⟨rfl, rfl⟩ := h
      exact ⟨List.mem_of_find?_eq_some hx, by simpa using List.find?_some hx, rfl⟩
  · simp at h

/-- What `bodyFor` makes of the collected members: a body of the builder's type,
whose members are some of the collected ones (all of them for structures and
unions), named as the type requires. -/
theorem bodyFor_spec {b : Builder} {id : ShapeId} {body : Body} (h : b.bodyFor id = .ok body) :
    body.type = b.type ∧ (∀ t, body = .simple t → t.isSimple = true) ∧
      ∃ sub : List Shape, (∀ x ∈ sub, x ∈ b.members) ∧ body.members = sub.map asMember ∧
        (b.type.fixedMembers = none → sub = b.members) ∧
        ∀ names, b.type.fixedMembers = some names → sub.map (·.id.member) = names.map some := by
  unfold bodyFor at h
  cases ht : b.type <;> simp only [ht] at h
  case list | set =>
    obtain ⟨⟨m, rest⟩, hm, hb⟩ := Except.bind_eq_ok.mp h
    obtain ⟨hmem, hname, -⟩ := takeMember_eq_ok hm
    simp only [Except.pure_eq_ok] at hb
    subst hb
    refine ⟨rfl, by simp, [m], by simpa using hmem, rfl, by simp [ShapeType.fixedMembers], ?_⟩
    intro names hn
    simp only [ShapeType.fixedMembers, Option.some.injEq] at hn
    simp [← hn, hname]
  case map =>
    obtain ⟨⟨k, rest⟩, hk, hb⟩ := Except.bind_eq_ok.mp h
    obtain ⟨⟨v, rest'⟩, hv, hb⟩ := Except.bind_eq_ok.mp hb
    obtain ⟨hkmem, hkname, rfl⟩ := takeMember_eq_ok hk
    obtain ⟨hvmem, hvname, -⟩ := takeMember_eq_ok hv
    simp only [Except.pure_eq_ok] at hb
    subst hb
    refine ⟨rfl, by simp, [k, v], ?_, rfl, by simp [ShapeType.fixedMembers], ?_⟩
    · intro x hx
      simp only [List.mem_cons, List.not_mem_nil, or_false] at hx
      rcases hx with rfl | rfl
      · exact hkmem
      · exact (List.mem_filter.mp hvmem).1
    · intro names hn
      simp only [ShapeType.fixedMembers, Option.some.injEq] at hn
      simp [← hn, hkname, hvname]
  case «structure» | union =>
    simp only [Except.pure_eq_ok] at h
    subst h
    exact ⟨rfl, by simp, b.members, fun _ hx => hx, rfl, fun _ => rfl,
      by simp [ShapeType.fixedMembers]⟩
  case member =>
    split at h
    · simp only [Except.pure_eq_ok] at h
      subst h
      exact ⟨rfl, by simp, [], by simp, rfl, by simp [ShapeType.fixedMembers],
        by simp [ShapeType.fixedMembers]⟩
    · simp [throw, throwThe, MonadExceptOf.throw] at h
  all_goals
    simp only [Except.pure_eq_ok] at h
    subst h
    exact ⟨rfl, by simp [ShapeType.isSimple, ShapeType.index], [], by simp, rfl,
      by simp [ShapeType.fixedMembers], by simp [ShapeType.fixedMembers]⟩

/-- **A valid builder builds only well-formed shapes.** -/
theorem build_wellFormed {b : Builder} {s : Shape} (hb : b.Valid) (h : b.build = .ok s) :
    s.WellFormed := by
  obtain ⟨-, id, -, hcheck, hmembers, body, hbody, rfl⟩ := build_eq_ok.mp h
  obtain ⟨htype, hsimple, sub, hsub, hbm, hall, hfixed⟩ := bodyFor_spec hbody
  -- every collected member passed its check: a member shape of this very ID
  have hmem : ∀ x ∈ b.members, x.isMember = true ∧ x.id.withoutMember = id := fun x hx =>
    let ⟨h1, h2, _⟩ := checkMember_eq_ok.mp (hmembers x hx)
    ⟨h1, h2⟩
  have hshapes : (⟨id, body, b.traits, b.source⟩ : Shape).memberShapes =
      sub.map fun x => (asMember x).toShape := by
    rw [Shape.memberShapes_eq, hbm, List.map_map]
    rfl
  have hnames : (⟨id, body, b.traits, b.source⟩ : Shape).memberShapes.map (·.memberName) =
      sub.map (·.id.member) := by
    rw [hshapes, List.map_map]
    rfl
  constructor
  · show id.isMember = (body.type == .member)
    rw [htype]
    exact checkId_eq_ok.mp hcheck
  · exact hsimple
  · intro m hm
    rw [hshapes] at hm
    obtain ⟨x, hx, rfl⟩ := List.mem_map.mp hm
    obtain ⟨hxm, hxw⟩ := hmem x (hsub x hx)
    exact ⟨(hb.members_wf x (hsub x hx)).id_isMember.trans hxm, hxw⟩
  · rw [hnames]
    cases hf : b.type.fixedMembers with
    | none =>
        rw [hall hf]
        exact (Shape.ids_nodup_iff_names_nodup fun x hx => (hmem x hx).2).mp hb.ids_nodup
    | some names =>
        rw [hfixed names hf]
        exact ShapeType.fixedMembers_nodup hf
  · intro names hn
    rw [hnames]
    exact hfixed names (htype ▸ hn)

end Builder

/-! ## §5. Well-formed shapes build back to themselves -/

namespace Shape

variable {s : Shape}

@[simp] theorem toBuilder_type (s : Shape) : s.toBuilder.type = s.type := by
  unfold toBuilder; split <;> rfl

@[simp] theorem toBuilder_id (s : Shape) : s.toBuilder.id = some s.id := by
  unfold toBuilder; split <;> rfl

@[simp] theorem toBuilder_error (s : Shape) : s.toBuilder.error = none := by
  unfold toBuilder; split <;> rfl

@[simp] theorem toBuilder_members (s : Shape) : s.toBuilder.members = s.memberShapes := by
  unfold toBuilder; split <;> rfl

@[simp] theorem toBuilder_traits (s : Shape) : s.toBuilder.traits = s.traits := by
  unfold toBuilder; split <;> rfl

@[simp] theorem toBuilder_source (s : Shape) : s.toBuilder.source = s.source := by
  unfold toBuilder; split <;> rfl

@[simp] theorem asMember_toShape (m : Member) : Builder.asMember m.toShape = m := rfl

@[simp] theorem asMember_comp_toShape : Builder.asMember ∘ Member.toShape = fun m => m := rfl

/-- The first collected member is taken when it has the name. -/
theorem takeMember_cons_of_name {x : Shape} {rest : List Shape} {t : ShapeType} {id : ShapeId}
    {name : String} (h : x.id.member = some name) :
    Builder.takeMember (x :: rest) t id name =
      .ok (x, (x :: rest).filter fun y => y.id.member != some name || y.id != x.id) := by
  simp [Builder.takeMember, h]

/-- Every member of a well-formed shape has a name its type allows. -/
theorem WellFormed.memberAllowed (hs : s.WellFormed) {m : Shape} (hm : m ∈ s.memberShapes) :
    Builder.memberAllowed s.type (m.id.member.getD "") = true := by
  have hname : m.memberName ∈ s.memberShapes.map (·.memberName) := List.mem_map_of_mem hm
  cases hf : s.type.fixedMembers with
  | none =>
      cases ht : s.type <;> simp_all [ShapeType.fixedMembers, Builder.memberAllowed]
  | some names =>
      rw [hs.fixed names hf] at hname
      obtain ⟨n, hn, hmn⟩ := List.mem_map.mp hname
      have hmember : m.id.member = some n := hmn.symm
      rw [hmember, Option.getD_some]
      cases ht : s.type <;> simp only [ht, ShapeType.fixedMembers, Option.some.injEq,
        reduceCtorEq] at hf <;> subst hf <;> simp_all [Builder.memberAllowed]

/-- The body a well-formed shape's builder makes is the shape's own body. -/
theorem WellFormed.toBuilder_bodyFor (hs : s.WellFormed) : s.toBuilder.bodyFor s.id = .ok s.body := by
  rcases s with ⟨id, body, traits, source⟩
  have hfixed := hs.fixed
  cases body with
  | simple t =>
      have := hs.simple t rfl
      cases t <;> simp_all [ShapeType.isSimple, ShapeType.index, toBuilder, Builder.bodyFor, type,
        Body.type]
  | list m | set m =>
      have hname := hfixed ["member"] rfl
      simp only [memberShapes_eq, Body.members, List.map_cons, List.map_nil, memberName,
        Member.toShape, List.cons.injEq, and_true] at hname
      have hm : m.toShape.id.member = some "member" := hname
      simp [toBuilder, Builder.bodyFor, memberShapes_eq, Body.members, type, Body.type,
        takeMember_cons_of_name hm]
  | map k v =>
      have hname := hfixed ["key", "value"] rfl
      simp only [memberShapes_eq, Body.members, List.map_cons, List.map_nil, memberName,
        Member.toShape, List.cons.injEq, and_true] at hname
      have hk : k.toShape.id.member = some "key" := hname.1
      have hv : v.toShape.id.member = some "value" := hname.2
      -- taking `key` out leaves exactly the value
      have hrest : [k.toShape, v.toShape].filter
          (fun y => y.id.member != some "key" || y.id != k.toShape.id) = [v.toShape] := by
        simp [hk, hv]
      simp [toBuilder, Builder.bodyFor, memberShapes_eq, Body.members, type, Body.type,
        takeMember_cons_of_name hk, hrest, takeMember_cons_of_name hv]
  | «structure» ms | union ms =>
      simp [toBuilder, Builder.bodyFor, memberShapes_eq, Body.members, type, Body.type]
  | _ => rfl

/-- **A well-formed shape builds back to itself from `toBuilder`.** -/
theorem toBuilder_build (hs : s.WellFormed) : s.toBuilder.build = .ok s := by
  refine Builder.build_eq_ok.mpr ⟨toBuilder_error s, s.id, toBuilder_id s, ?_, ?_, s.body,
    hs.toBuilder_bodyFor, by simp⟩
  · rw [Builder.checkId_eq_ok, toBuilder_type]
    exact hs.id_isMember
  · intro m hm
    rw [toBuilder_members] at hm
    rw [Builder.checkMember_eq_ok, toBuilder_type]
    exact ⟨memberShapes_isMember hm, (hs.member_id m hm).2, hs.memberAllowed hm⟩

/-- The members of a well-formed shape are well-formed member shapes. -/
theorem WellFormed.member_wellFormed (hs : s.WellFormed) {m : Shape} (hm : m ∈ s.memberShapes) :
    m.WellFormed := by
  obtain ⟨x, -, rfl⟩ := List.mem_map.mp hm
  exact Member.toShape_wellFormed (hs.member_id _ hm).1

/-- The members of a well-formed shape have pairwise distinct IDs. -/
theorem WellFormed.ids_nodup (hs : s.WellFormed) : (s.memberShapes.map (·.id)).Nodup :=
  (ids_nodup_iff_names_nodup fun m hm => (hs.member_id m hm).2).mpr hs.names_nodup

end Shape

namespace Builder

/-- Members put one by one with fresh IDs are appended in order. -/
theorem foldl_pushMember (ms : List Shape) (b : Builder)
    (hnd : ((b.members ++ ms).map (·.id)).Nodup) :
    ms.foldl pushMember b = { b with members := b.members ++ ms } := by
  induction ms generalizing b with
  | nil => simp
  | cons m ms ih =>
      -- `m` is not among the members collected so far, so it is appended
      have hfresh : b.members.any (·.id == m.id) = false := by
        rw [List.map_append, List.nodup_append] at hnd
        rw [List.any_eq_false]
        intro x hx heq
        exact hnd.2.2 x.id (List.mem_map_of_mem hx) m.id (by simp) (beq_iff_eq.mp heq)
      have hpush : b.pushMember m = { b with members := b.members ++ [m] } := by
        simp [pushMember, hfresh]
      rw [List.foldl_cons, hpush, ih _ (by simpa using hnd)]
      simp

/-- Dropping members by the names of member shapes `ms` keeps every other part of
the builder and every member named otherwise. -/
theorem foldl_removeMember (f : Builder → Shape → Builder)
    (hf : ∀ b m n, m.memberName = some n → f b m = b.removeMember n)
    (ms : List Shape) (hms : ∀ m ∈ ms, m.memberName.isSome = true) (b : Builder) :
    ms.foldl f b =
      { b with members := b.members.filter fun x => x.id.member ∉ ms.map (·.memberName) } := by
  induction ms generalizing b with
  | nil =>
      have hkeep : b.members.filter (fun x => x.id.member ∉ ([] : List Shape).map (·.memberName)) =
          b.members := List.filter_eq_self.mpr fun _ _ => by simp
      rw [hkeep]
      rfl
  | cons m ms ih =>
      obtain ⟨n, hn⟩ := Option.isSome_iff_exists.mp (hms m List.mem_cons_self)
      rw [List.foldl_cons, hf b m n hn, ih fun x hx => hms x (List.mem_cons_of_mem m hx)]
      simp only [removeMember, List.filter_filter, List.map_cons, List.mem_cons, hn, not_or]
      congr 2
      funext x
      by_cases h : x.id.member = some n <;> simp [h]

end Builder

namespace PendingShape

/-- Building pending members that each build to a given shape puts those shapes
in order. -/
theorem foldlM_build {ms : List Shape} (h : ∀ m ∈ ms, m.toBuilder.build = .ok m) (b : Builder) :
    (ms.map fun m => ({ builder := m.toBuilder } : PendingMember)).foldlM
        (fun b m => do return b.pushMember (← m.builder.build)) b =
      .ok (ms.foldl Builder.pushMember b) := by
  induction ms generalizing b with
  | nil => rfl
  | cons m ms ih =>
      simp only [List.map_cons, List.foldlM_cons, List.foldl_cons,
        h m List.mem_cons_self]
      exact ih (fun x hx => h x (List.mem_cons_of_mem m hx)) _

/-- The pending form of a well-formed shape has every part of the shape's
builder but the members: each is dropped under its own name. -/
theorem ofShape_builder {s : Shape} (hs : s.WellFormed) : (ofShape s).builder = { s.toBuilder with members := [] } := by
  have hnamed : ∀ m ∈ s.memberShapes, m.memberName.isSome = true := fun m hm =>
    (hs.member_id m hm).1
  simp only [ofShape]
  refine (Builder.foldl_removeMember _ (fun b m n h => by simp only [h]) _ hnamed _).trans ?_
  rw [Shape.toBuilder_members]
  congr 1
  rw [List.filter_eq_nil_iff]
  intro x hx
  simp only [decide_eq_true_eq]
  exact fun hnot => hnot (List.mem_map_of_mem (f := fun m : Shape => m.memberName) hx)

/-- **A well-formed shape builds back to itself from its pending form.** -/
theorem ofShape_build {s : Shape} (hs : s.WellFormed) : (ofShape s).build = .ok s := by
  have hbuilder := ofShape_builder hs
  have hbuilds : ∀ m ∈ s.memberShapes, m.toBuilder.build = .ok m := fun m hm =>
    Shape.toBuilder_build (hs.member_wellFormed hm)
  have hall : { s.toBuilder with members := ([] : List Shape) ++ s.memberShapes } = s.toBuilder := by
    rw [List.nil_append, ← Shape.toBuilder_members]
  unfold build
  simp only [ofShape] at hbuilder ⊢
  rw [hbuilder, foldlM_build hbuilds]
  show (s.memberShapes.foldl Builder.pushMember { s.toBuilder with members := [] }).build = .ok s
  rw [Builder.foldl_pushMember _ _ (by simpa using hs.ids_nodup), hall]
  exact Shape.toBuilder_build hs

end PendingShape

/-! ## §6. Any sequence of calls -/

/-- A call a client makes on a shape builder. `memberWith` configures the new
member with a sequence of calls of its own; a plain `member` is `memberWith`
with none. -/
inductive BuilderCall where
  | setId (id : ShapeId)
  | setSource (source : SourceLocation)
  | addTrait (t : Trait)
  | removeTrait (id : ShapeId)
  | addMember (m : Shape)
  | memberWith (name : String) (target : ShapeId) (configure : List BuilderCall)
  | removeMember (name : String)
  | setTarget (target : ShapeId)
  | setInput (id : ShapeId)
  | setOutput (id : ShapeId)
  | addError (id : ShapeId)
  | setVersion (version : String)
  | addOperation (id : ShapeId)
  | addResource (id : ShapeId)
  | setIdentifier (name : String) (target : ShapeId)
  | setLifecycle (which : String) (id : ShapeId)

namespace BuilderCall

mutual

/-- Makes one call. -/
def apply : BuilderCall → Builder → Builder
  | .setId id, b => b.setId id
  | .setSource source, b => b.setSource source
  | .addTrait t, b => b.addTrait t
  | .removeTrait id, b => b.removeTrait id
  | .addMember m, b => b.addMember m
  | .memberWith name target configure, b => b.memberWith name target (run configure)
  | .removeMember name, b => b.removeMember name
  | .setTarget target, b => b.setTarget target
  | .setInput id, b => b.setInput id
  | .setOutput id, b => b.setOutput id
  | .addError id, b => b.addError id
  | .setVersion version, b => b.setVersion version
  | .addOperation id, b => b.addOperation id
  | .addResource id, b => b.addResource id
  | .setIdentifier name target, b => b.setIdentifier name target
  | .setLifecycle which id, b => b.setLifecycle which id

/-- Makes calls in order. -/
def run : List BuilderCall → Builder → Builder
  | [], b => b
  | c :: cs, b => run cs (apply c b)

end

mutual

/-- The shapes a call adds whole as members, in nested configurations too. -/
def added : BuilderCall → List Shape
  | .addMember m => [m]
  | .memberWith _ _ configure => addedAll configure
  | _ => []

/-- The shapes a sequence of calls adds whole as members. -/
def addedAll : List BuilderCall → List Shape
  | [] => []
  | c :: cs => added c ++ addedAll cs

end

/-- A builder starting a member keeps nothing collected. -/
theorem memberStart_valid (memberId target : ShapeId) (source : SourceLocation) :
    ((Builder.new .member).setId memberId |>.setTarget target |>.setSource source).Valid :=
  (Builder.new_valid .member).of_members_eq rfl

/-- Adding a member whose configuration keeps builders valid keeps the builder valid. -/
theorem valid_memberWith {b : Builder} (hb : b.Valid) {name : String} {target : ShapeId}
    {configure : Builder → Builder} (hconf : ∀ c, c.Valid → (configure c).Valid) :
    (b.memberWith name target configure).Valid := by
  unfold Builder.memberWith
  split
  · exact hb.of_members_eq (Builder.fail_members _ _)
  · split
    · exact hb.of_members_eq (Builder.fail_members _ _)
    · dsimp only
      split
      · next m hm =>
          exact hb.pushMember (Builder.build_wellFormed (hconf _ (memberStart_valid _ _ _)) hm)
      · exact hb.of_members_eq (Builder.fail_members _ _)

mutual

/-- One call keeps a builder valid, given that a shape it adds whole is well formed. -/
theorem apply_valid : ∀ (c : BuilderCall) {b : Builder}, b.Valid →
    (∀ m ∈ c.added, m.WellFormed) → (c.apply b).Valid
  | .addMember m, _, hb, hadded => hb.pushMember (hadded m (by simp [added]))
  | .memberWith _ _ configure, _, hb, hadded =>
      valid_memberWith hb fun _ hc => run_valid configure hc hadded
  | .removeMember name, _, hb, _ => hb.removeMember name
  | .addOperation id, b, hb, _ => hb.of_members_eq (by
      simp only [apply, Builder.addOperation]
      split <;> rfl)
  | .addResource id, b, hb, _ => hb.of_members_eq (by
      simp only [apply, Builder.addResource]
      split <;> rfl)
  | .setId _, _, hb, _ | .setSource _, _, hb, _ | .addTrait _, _, hb, _
  | .removeTrait _, _, hb, _ | .setTarget _, _, hb, _ | .setInput _, _, hb, _
  | .setOutput _, _, hb, _ | .addError _, _, hb, _ | .setVersion _, _, hb, _
  | .setIdentifier _ _, _, hb, _ | .setLifecycle _ _, _, hb, _ => hb.of_members_eq rfl

/-- A sequence of calls keeps a builder valid, given that the shapes it adds
whole are well formed. -/
theorem run_valid : ∀ (cs : List BuilderCall) {b : Builder}, b.Valid →
    (∀ m ∈ addedAll cs, m.WellFormed) → (run cs b).Valid
  | [], _, hb, _ => hb
  | c :: cs, _, hb, hadded =>
      run_valid cs (apply_valid c hb fun m hm => hadded m (List.mem_append_left _ hm))
        fun m hm => hadded m (List.mem_append_right _ hm)

end

/-- **Whatever the order of the calls, a shape a builder builds is well formed and
builds back to itself, both from `toBuilder` and from its pending form.** The
shapes added whole are built shapes, hence well formed (`Builder.build_wellFormed`). -/
theorem run_build_wellFormed (t : ShapeType) (cs : List BuilderCall)
    (hadded : ∀ m ∈ addedAll cs, m.WellFormed) {s : Shape}
    (h : (run cs (Builder.new t)).build = .ok s) :
    s.WellFormed ∧ s.toBuilder.build = .ok s ∧ (PendingShape.ofShape s).build = .ok s := by
  have hs := Builder.build_wellFormed (run_valid cs (Builder.new_valid t) hadded) h
  exact ⟨hs, Shape.toBuilder_build hs, PendingShape.ofShape_build hs⟩

/-- Calls that build a structure: the ID set first, a member configured with its
own place, a member added whole, and a third member added and removed again. -/
def structureCalls : List BuilderCall :=
  [.setId ⟨"ns", "S", none⟩,
   .memberWith "a" ⟨"ns", "T", none⟩ [.setSource ⟨"a.json", 1, 1⟩],
   .addMember ⟨⟨"ns", "S", some "b"⟩, .member ⟨"ns", "T", none⟩, [], SourceLocation.none⟩,
   .memberWith "c" ⟨"ns", "T", none⟩ [], .removeMember "c"]

/-- The structure `structureCalls` builds. -/
def structureBuilt : Shape :=
  ⟨⟨"ns", "S", none⟩,
   .structure [⟨⟨"ns", "S", some "a"⟩, ⟨"ns", "T", none⟩, [], ⟨"a.json", 1, 1⟩⟩,
     ⟨⟨"ns", "S", some "b"⟩, ⟨"ns", "T", none⟩, [], SourceLocation.none⟩],
   [], SourceLocation.none⟩

theorem run_build_wellFormed_structure :
    (∀ m ∈ addedAll structureCalls, m.WellFormed) ∧
      (run structureCalls (Builder.new .structure)).build = .ok structureBuilt ∧
      (structureBuilt.WellFormed ∧ structureBuilt.toBuilder.build = .ok structureBuilt ∧
        (PendingShape.ofShape structureBuilt).build = .ok structureBuilt) := by
  have hadded : ∀ m ∈ addedAll structureCalls, m.WellFormed := by
    intro m hm
    simp only [structureCalls, addedAll, added, List.nil_append, List.append_nil,
      List.mem_singleton] at hm
    subst hm
    exact Member.toShape_wellFormed (m := ⟨⟨"ns", "S", some "b"⟩, ⟨"ns", "T", none⟩, [],
      SourceLocation.none⟩) rfl
  exact ⟨hadded, rfl, run_build_wellFormed .structure structureCalls hadded rfl⟩

end BuilderCall

end ShapeKit
