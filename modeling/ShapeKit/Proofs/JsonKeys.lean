import ShapeKit.Json.Reader
import ShapeKit.Proofs.ShapeBuild

/-!
# Objects read from JSON text have distinct keys

The reader keeps one entry per key: a repeated key takes the new value at the
place of the first (`Node.putEntry`). So every object of a value `read` gives
has pairwise distinct keys, at any depth (`read_keysDistinct`); loaders rely on
it when they take the keys of an object as distinct names.

The four reading functions recurse into each other on one fuel; their
invariant is proved for all four at once, by induction on the fuel
(`reading_keysDistinct`).
-/

namespace ShapeKit.Json

/-- Every object in the value, at any depth, has pairwise distinct keys. -/
inductive Node.KeysDistinct : Node → Prop
  | null : Node.KeysDistinct .null
  | bool (b : Bool) : Node.KeysDistinct (.bool b)
  | num (n : Number) : Node.KeysDistinct (.num n)
  | str (s : String) : Node.KeysDistinct (.str s)
  | arr {items : List Node} (h : ∀ x ∈ items, x.KeysDistinct) : Node.KeysDistinct (.arr items)
  | obj {entries : List (String × Node)} (keys : (entries.map Prod.fst).Nodup)
      (values : ∀ e ∈ entries, e.2.KeysDistinct) : Node.KeysDistinct (.obj entries)

/-- Entries of an object under construction: distinct keys, each value with
distinct keys of its own. -/
def EntriesDistinct (entries : List (String × Node)) : Prop :=
  (entries.map Prod.fst).Nodup ∧ ∀ e ∈ entries, e.2.KeysDistinct

theorem mem_keys_putEntry (key : String) (v : Node) (entries : List (String × Node)) (k : String) :
    k ∈ (Node.putEntry key v entries).map Prod.fst ↔ k = key ∨ k ∈ entries.map Prod.fst := by
  induction entries with
  | nil => simp [Node.putEntry]
  | cons e rest ih =>
    obtain ⟨k', w⟩ := e
    unfold Node.putEntry
    split
    · next hk =>
      have hk' : k' = key := by simpa using hk
      subst hk'
      simp only [List.map_cons, List.mem_cons]
      exact or_self_left.symm
    · simp only [List.map_cons, List.mem_cons, ih]
      exact or_left_comm

/-- Putting a value with distinct keys keeps the keys distinct. -/
theorem EntriesDistinct.putEntry {entries : List (String × Node)} (h : EntriesDistinct entries)
    (key : String) {v : Node} (hv : v.KeysDistinct) : EntriesDistinct (Node.putEntry key v entries) := by
  induction entries with
  | nil => exact ⟨by simp [Node.putEntry], by simp [Node.putEntry, hv]⟩
  | cons e rest ih =>
    obtain ⟨k, w⟩ := e
    obtain ⟨hnd, hvals⟩ := h
    rw [List.map_cons, List.nodup_cons] at hnd
    have hrest : EntriesDistinct rest := ⟨hnd.2, fun e he => hvals e (List.mem_cons_of_mem _ he)⟩
    unfold Node.putEntry
    split
    · -- the value replaces the one under its key, in place
      refine ⟨by simpa using hnd, fun e he => ?_⟩
      rcases List.mem_cons.mp he with rfl | he
      · exact hv
      · exact hrest.2 e he
    · next hk =>
      have hne : k ≠ key := by simpa using hk
      obtain ⟨ihnd, ihvals⟩ := ih hrest
      refine ⟨?_, fun e he => ?_⟩
      · rw [List.map_cons, List.nodup_cons, mem_keys_putEntry]
        exact ⟨fun h => h.elim hne hnd.1, ihnd⟩
      · rcases List.mem_cons.mp he with rfl | he
        · exact hvals _ List.mem_cons_self
        · exact ihvals e he

theorem map_eq_ok' {α β : Type} {f : α → β} {x : Except Failure α} {b : β} :
    Except.map f x = .ok b ↔ ∃ a, x = .ok a ∧ f a = b := by
  cases x <;> simp [Except.map]

theorem EntriesDistinct.nil : EntriesDistinct [] := ⟨List.nodup_nil, fun _ h => by cases h⟩

/-- What a reading function gives on success, whatever it is. -/
theorem failAt_ne_ok {α : Type} (code : ReadErrorCode) (c : Cursor) (a : α) : failAt code c ≠ .ok a :=
  fun h => by cases h

theorem failAhead_ne_ok {α : Type} (src : Source) (code : ReadErrorCode) (c : Cursor) (a : α) :
    failAhead src code c ≠ .ok a := fun h => by cases h

/-- The invariant of the four reading functions, at one fuel: a value read has
distinct keys, and so does a list or an object finished from items or entries
that have them. -/
def ReadsDistinct (src : Source) (fuel : Nat) : Prop :=
  (∀ depth c v c', readValue src fuel depth c = .ok (v, c') → v.KeysDistinct) ∧
  (∀ depth c first acc v c', (∀ x ∈ acc, x.KeysDistinct) →
    readItems src fuel depth c first acc = .ok (v, c') → v.KeysDistinct) ∧
  (∀ depth c acc v c', EntriesDistinct acc → readEntry src fuel depth c acc = .ok (v, c') → v.KeysDistinct) ∧
  (∀ depth c first acc v c', EntriesDistinct acc →
    readEntries src fuel depth c first acc = .ok (v, c') → v.KeysDistinct)

theorem reading_keysDistinct (src : Source) (fuel : Nat) : ReadsDistinct src fuel := by
  induction fuel with
  | zero =>
    refine ⟨fun _ c _ _ h => ?_, fun _ c _ _ _ _ _ h => ?_, fun _ c _ _ _ _ h => ?_,
      fun _ c _ _ _ _ _ h => ?_⟩ <;>
      simp [readValue, readItems, readEntry, readEntries, failAt] at h
  | succ fuel ih =>
    obtain ⟨ihV, ihI, ihE, ihEs⟩ := ih
    have hV : ∀ depth c v c', readValue src (fuel + 1) depth c = .ok (v, c') → v.KeysDistinct := by
      intro depth c v c' h
      simp only [readValue] at h
      split at h
      all_goals first
        | exact absurd h (failAhead_ne_ok _ _ _ _)
        | (obtain ⟨_, -, h⟩ := map_eq_ok'.mp h; cases h; constructor)
        | skip
      -- an array's items and an object's entries are read with one step less
      · split at h
        · exact absurd h (failAhead_ne_ok _ _ _ _)
        · exact ihI _ _ _ _ _ _ (fun _ h => by cases h) h
      · split at h
        · exact absurd h (failAhead_ne_ok _ _ _ _)
        · exact ihEs _ _ _ _ _ _ EntriesDistinct.nil h
      · split at h
        · obtain ⟨_, -, h⟩ := map_eq_ok'.mp h
          cases h
          constructor
        · exact absurd h (failAhead_ne_ok _ _ _ _)
    have hI : ∀ depth c first acc v c', (∀ x ∈ acc, x.KeysDistinct) →
        readItems src (fuel + 1) depth c first acc = .ok (v, c') → v.KeysDistinct := by
      intro depth c first acc v c' hacc h
      simp only [readItems] at h
      split at h
      · exact absurd h (failAhead_ne_ok _ _ _ _)
      · cases h
        exact .arr fun x hx => hacc x (List.mem_reverse.mp hx)
      · -- after a comma: the first item, or the next one past the comma
        split at h
        · split at h
          · next w c'' hw => exact ihI _ _ _ _ _ _ (List.forall_mem_cons.mpr ⟨ihV _ _ _ _ hw, hacc⟩) h
          · cases h
        · split at h
          · exact absurd h (failAhead_ne_ok _ _ _ _)
          · exact absurd h (failAhead_ne_ok _ _ _ _)
          · split at h
            · next w c'' hw => exact ihI _ _ _ _ _ _ (List.forall_mem_cons.mpr ⟨ihV _ _ _ _ hw, hacc⟩) h
            · cases h
      · split at h
        · split at h
          · next w c'' hw => exact ihI _ _ _ _ _ _ (List.forall_mem_cons.mpr ⟨ihV _ _ _ _ hw, hacc⟩) h
          · cases h
        · exact absurd h (failAhead_ne_ok _ _ _ _)
    have hE : ∀ depth c acc v c', EntriesDistinct acc →
        readEntry src (fuel + 1) depth c acc = .ok (v, c') → v.KeysDistinct := by
      intro depth c acc v c' hacc h
      simp only [readEntry] at h
      split at h
      · cases h
      · -- the key, a colon, and the value read with one step less
        split at h
        · split at h
          · next w c'' hw =>
            exact ihEs _ _ _ _ _ _ (hacc.putEntry _ (ihV _ _ _ _ hw)) h
          · cases h
        · exact absurd h (failAhead_ne_ok _ _ _ _)
        · exact absurd h (failAhead_ne_ok _ _ _ _)
    have hEs : ∀ depth c first acc v c', EntriesDistinct acc →
        readEntries src (fuel + 1) depth c first acc = .ok (v, c') → v.KeysDistinct := by
      intro depth c first acc v c' hacc h
      simp only [readEntries] at h
      split at h
      · exact absurd h (failAhead_ne_ok _ _ _ _)
      · cases h
        exact .obj hacc.1 hacc.2
      · -- past a comma, the next entry
        split at h
        · exact absurd h (failAhead_ne_ok _ _ _ _)
        · split at h
          · exact ihE _ _ _ _ _ hacc h
          all_goals exact absurd h (failAhead_ne_ok _ _ _ _)
      · split at h
        · exact ihE _ _ _ _ _ hacc h
        · exact absurd h (failAhead_ne_ok _ _ _ _)
      · split at h <;> exact absurd h (failAhead_ne_ok _ _ _ _)
    exact ⟨hV, hI, hE, hEs⟩

/-- **Every object of a value read from JSON text has distinct keys**, at any
depth. -/
theorem read_keysDistinct {text : String} {n : Node} (h : read text = .ok n) : n.KeysDistinct := by
  unfold read at h
  dsimp only at h
  split at h
  · cases h
  · next v c hv =>
    split at h
    · cases h
      exact (reading_keysDistinct _ _).1 _ _ _ _ hv
    · cases h

end ShapeKit.Json
