import Mathlib
import ShapeKit.Proofs.JsonKeys

/-!
# Equality of values is symmetric

`Node.equal` compares arrays item by item and objects as key sets with equal
values: each entry of the first object must find an equal value under its key
in the second, and the two must have as many entries. Read one way only, that
comparison is symmetric once no object repeats a key (`Node.KeysDistinct`), as
no object read from text does (`read_keysDistinct`): the keys of the first
object then lie among those of the second, and as many of them, so the two
have the same keys. Doubles compare by IEEE equality, which is symmetric too.

Main statement: `Node.equal_comm`.
-/

namespace ShapeKit.Json

/-! ## §1. Doubles and numbers -/

/-- IEEE comparison of unpacked doubles finds two values equal both ways or neither. -/
theorem unpacked_compare_eq_eq_comm (u v : Float.Model.UnpackedFloat) :
    u.compare v = some .eq ↔ v.compare u = some .eq := by
  -- every constructor that carries a sign is split on it, so that the comparison reduces
  rcases u with ⟨_ | _⟩ | _ | ⟨_ | _⟩ | ⟨_ | _, m, e, hm⟩ <;>
    rcases v with ⟨_ | _⟩ | _ | ⟨_ | _⟩ | ⟨_ | _, m', e', hm'⟩ <;>
    simp [Float.Model.UnpackedFloat.compare, Ordering.swap_eq_eq]
  all_goals exact and_congr eq_comm eq_comm

theorem float_beq_comm (a b : Float) : (a == b) = (b == a) := by
  show Float.beq a b = Float.beq b a
  unfold Float.beq
  show a.toModel.beq b.toModel = b.toModel.beq a.toModel
  unfold Float.Model.beq Float.Model.UnpackedFloat.beq
  rw [Bool.eq_iff_iff, beq_iff_eq, beq_iff_eq, unpacked_compare_eq_eq_comm]

theorem Number.equal_comm (a b : Number) : a.equal b = b.equal a := by
  cases a <;> cases b <;> simp [Number.equal, float_beq_comm, Bool.beq_comm]

/-! ## §2. Objects with distinct keys -/

namespace Node

theorem mem_of_lookup {k : String} {v : Node} :
    ∀ {es : List (String × Node)}, lookup k es = some v → (k, v) ∈ es
  | [], h => by cases h
  | (k', v') :: es, h => by
    unfold lookup at h
    split at h
    · next hk =>
      cases h
      rw [beq_iff_eq.1 hk]
      exact List.mem_cons_self
    · exact List.mem_cons_of_mem _ (mem_of_lookup h)

/-- With distinct keys, the value found under a key is the one entered with it. -/
theorem lookup_of_mem {k : String} {v : Node} :
    ∀ {es : List (String × Node)}, (es.map Prod.fst).Nodup → (k, v) ∈ es → lookup k es = some v
  | [], _, h => by cases h
  | (k', v') :: es, hnd, h => by
    rw [List.map_cons, List.nodup_cons] at hnd
    unfold lookup
    rcases List.mem_cons.1 h with h | h
    · cases h
      simp
    · -- `k` comes later, so it is not the head's key
      have hk : k' ≠ k := fun hk => hnd.1 (List.mem_map.2 ⟨_, h, hk.symm⟩)
      simp [hk, lookup_of_mem hnd.2 h]

/-- Each entry of the first list finds an equal value under its key in the second. -/
theorem equalEntries_iff {ys : List (String × Node)} :
    ∀ {xs : List (String × Node)},
      equalEntries xs ys = true ↔ ∀ e ∈ xs, ∃ w, lookup e.1 ys = some w ∧ e.2.equal w = true
  | [] => by simp [equalEntries]
  | (k, v) :: xs => by
    rw [equalEntries, Bool.and_eq_true, equalEntries_iff, List.forall_mem_cons]
    apply and_congr_left'
    cases lookup k ys <;> simp

/-- When every entry of `xs` finds its key in `ys`, and `ys` has no more
entries, both have the same keys. -/
theorem mem_keys_of_lookup {xs ys : List (String × Node)} (hnd : (xs.map Prod.fst).Nodup)
    (hlen : ys.length ≤ xs.length) (h : ∀ e ∈ xs, (lookup e.1 ys).isSome) {k : String}
    (hk : k ∈ ys.map Prod.fst) : k ∈ xs.map Prod.fst := by
  have hsub : xs.map Prod.fst ⊆ ys.map Prod.fst := by
    intro k hk
    obtain ⟨e, he, rfl⟩ := List.mem_map.1 hk
    obtain ⟨w, hw⟩ := Option.isSome_iff_exists.1 (h e he)
    exact List.mem_map.2 ⟨_, mem_of_lookup hw, rfl⟩
  have hperm := (hnd.subperm hsub).perm_of_length_le (by simpa using hlen)
  exact hperm.mem_iff.2 hk

/-! ## §3. Symmetry -/

theorem equalItems_symm :
    ∀ {xs ys : List Node}, (∀ x ∈ xs, ∀ {y}, y.KeysDistinct → x.equal y = true → y.equal x = true) →
      (∀ y ∈ ys, y.KeysDistinct) → equalItems xs ys = true → equalItems ys xs = true
  | [], [], _, _, _ => rfl
  | [], _ :: _, _, _, h => by simp [equalItems] at h
  | _ :: _, [], _, _, h => by simp [equalItems] at h
  | x :: xs, y :: ys, ih, hys, h => by
    rw [equalItems, Bool.and_eq_true] at h ⊢
    exact ⟨ih x List.mem_cons_self (hys y List.mem_cons_self) h.1,
      equalItems_symm (fun x' hx' => ih x' (List.mem_cons_of_mem _ hx'))
        (fun y' hy' => hys y' (List.mem_cons_of_mem _ hy')) h.2⟩

/-- Two objects with distinct keys: if each entry of the first has an equal
value under its key in the second and they have as many entries, then the
same holds the other way. -/
theorem equalEntries_symm {xs ys : List (String × Node)}
    (ih : ∀ e ∈ xs, ∀ {y}, y.KeysDistinct → e.2.equal y = true → y.equal e.2 = true)
    (hxs : (xs.map Prod.fst).Nodup) (hys : (ys.map Prod.fst).Nodup) (hys' : ∀ e ∈ ys, e.2.KeysDistinct)
    (hlen : xs.length = ys.length) (h : equalEntries xs ys = true) : equalEntries ys xs = true := by
  rw [equalEntries_iff] at h ⊢
  rintro ⟨k, w⟩ hkw
  -- `k` is a key of `xs` too, entered there with some `v`
  have hk : k ∈ xs.map Prod.fst :=
    mem_keys_of_lookup hxs (Nat.le_of_eq hlen.symm) (fun e he => by
      obtain ⟨w, hw, -⟩ := h e he
      simp [hw]) (List.mem_map_of_mem hkw)
  obtain ⟨⟨k', v⟩, hkv, rfl⟩ := List.mem_map.1 hk
  obtain ⟨w', hw', hvw⟩ := h (k', v) hkv
  -- the value `v` finds under `k` in `ys` is `w` itself
  obtain rfl : w' = w := Option.some.inj (hw'.symm.trans (lookup_of_mem hys hkw))
  exact ⟨v, lookup_of_mem hxs hkv, ih (k', v) hkv (hys' (k', w') hkw) hvw⟩

theorem equal_symm {x : Node} (hx : x.KeysDistinct) :
    ∀ {y : Node}, y.KeysDistinct → x.equal y = true → y.equal x = true := by
  induction hx with
  | null => intro y _ h; cases y <;> simp_all [equal]
  | bool b => intro y _ h; cases y <;> simp_all [equal]
  | num n => intro y _ h; cases y <;> simp_all [equal, Number.equal_comm]
  | str s => intro y _ h; cases y <;> simp_all [equal]
  | arr _ ih =>
    intro y hy h
    cases hy with
    | arr hys => exact equalItems_symm ih hys h
    | _ => simp [equal] at h
  | obj hnd _ ih =>
    intro y hy h
    cases hy with
    | obj hnd' hes' =>
      rw [equal, Bool.and_eq_true, beq_iff_eq] at h ⊢
      exact ⟨h.1.symm, equalEntries_symm ih hnd hnd' hes' h.1 h.2⟩
    | _ => simp [equal] at h

/-- **Equality of values is symmetric** on values whose objects repeat no key. -/
theorem equal_comm {x y : Node} (hx : x.KeysDistinct) (hy : y.KeysDistinct) :
    x.equal y = y.equal x :=
  Bool.eq_iff_iff.2 ⟨equal_symm hx hy, equal_symm hy hx⟩

/-- A repeated key breaks the symmetry: each entry of `{"a": 1, "a": 1}` finds
its value in `{"a": 1, "b": 2}`, but `b` finds nothing the other way. -/
example : equal (.obj [("a", .num (.nat 1)), ("a", .num (.nat 1))])
      (.obj [("a", .num (.nat 1)), ("b", .num (.nat 2))]) = true ∧
    equal (.obj [("a", .num (.nat 1)), ("b", .num (.nat 2))])
      (.obj [("a", .num (.nat 1)), ("a", .num (.nat 1))]) = false := by
  decide

end Node

end ShapeKit.Json
