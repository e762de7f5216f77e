import ShapeKit.Proofs.ShapeBuild
import ShapeKit.Proofs.IdText

/-!
# Events read back from their JSON objects

`Event.toNode` writes an event as a JSON object: `id`, `severity`, `message`,
`shapeId` when there is a shape, the place as `filename`, `line` and `column`,
and `suppressionReason` when there is a reason. `Event.ofNode` reads the
entries of an object one by one into `EventFields` and rebuilds the event with
`EventDraft.build`, which refuses a reason on an event that is not
`SUPPRESSED`.

An event is *well formed* (`Event.WellFormed`) when a reason comes only with
the `SUPPRESSED` severity, its shape ID is made of valid parts and its line
and column are 32-bit numbers. The last two hold of every event by the types of
its fields; the first is kept by every way of making an event except a later
change of severity.

The reading side keeps an invariant of its own, `EventFields.Valid`: every ID
read is valid and every number read fits 32 bits. Each entry read keeps it
(`EventFields.take_valid`), hence every object read (`EventFields.ofNode_valid`).

Main statements:
  * `Event.ofNode_toNode` — a well-formed event reads back from its object.
  * `Event.ofNode_wellFormed` — every event read from a node is well formed.
  * `Event.ofNode_toNode_roundTrip` — both together: reading then writing is
    idempotent on every node that reads as an event.
-/

namespace ShapeKit

open Json

/-! ## §1. Decoding single fields -/

theorem Severity.ofName?_name (s : Severity) : Severity.ofName? s.name = some s := by
  cases s <;> rfl

theorem decodeSeverity_name (s : Severity) : decodeSeverity (.str s.name) = .ok s := by
  simp [decodeSeverity, Severity.ofName?_name]

theorem decodeU32_of_lt {n : Nat} (h : n < 2 ^ 32) : decodeU32 (.num (.nat n)) = .ok n :=
  if_pos h

/-- A line or column read fits 32 bits. -/
theorem lt_of_decodeU32 {v : Node} {n : Nat} (h : decodeU32 v = .ok n) : n < 2 ^ 32 := by
  unfold decodeU32 at h
  split at h
  · split at h
    · cases h
      assumption
    · cases h
  · cases h
  · cases h

/-- A shape ID read is valid. -/
theorem valid_of_decodeShapeId {v : Node} {s : Option ShapeId} (h : decodeShapeId v = .ok s) :
    ∀ id ∈ s, id.Valid := by
  intro id hid
  unfold decodeShapeId at h
  split at h
  · cases h
    cases hid
  · split at h
    · next hp =>
      cases h
      cases hid
      exact ShapeId.valid_of_parse hp
    · cases h
  · cases h

/-! ## §2. Building an event -/

/-- What a successful build consists of: the three required fields, a reason only
on a `SUPPRESSED` event, and the other parts copied. -/
theorem EventDraft.build_eq_ok {d : EventDraft} {e : Event} :
    d.build = .ok e ↔ d.id = some e.id ∧ d.severity = some e.severity ∧ d.message = some e.message ∧
      (d.reason.isSome → e.severity = .suppressed) ∧
      e.shapeId = d.shapeId ∧ e.source = d.source ∧ e.reason = d.reason := by
  rcases d with ⟨_ | id, _ | sev, _ | msg, shapeId, source, reason⟩
  -- a missing required field fails the build
  all_goals try (simp [build]; done)
  rcases e with ⟨id', sev', msg', shapeId', source', reason'⟩
  by_cases hr : reason.isSome ∧ sev ≠ .suppressed
  · -- the reason rule refuses the draft
    have hb : (reason.isSome && sev != .suppressed) = true := by simpa using hr
    simp only [build, hb, if_true]
    constructor
    · intro h
      cases h
    · rintro ⟨-, h, -, hs, -⟩
      cases h
      exact absurd (hs hr.1) hr.2
  · have hb : (reason.isSome && sev != .suppressed) = false := by simpa using hr
    simp only [build, hb, Bool.false_eq_true, if_false]
    constructor
    · intro h
      cases h
      exact ⟨rfl, rfl, rfl, fun h => by simpa [h] using hr, rfl, rfl, rfl⟩
    · rintro ⟨h1, h2, h3, -, rfl, rfl, rfl⟩
      cases h1
      cases h2
      cases h3
      rfl

/-! ## §3. Well-formed events -/

/-- The events of the library: a reason only on a `SUPPRESSED` event, a shape ID
made of valid parts, and a line and a column that fit 32 bits. -/
structure Event.WellFormed (e : Event) : Prop where
  reason_suppressed : e.reason.isSome → e.severity = .suppressed
  shapeId_valid : ∀ id ∈ e.shapeId, id.Valid
  line_lt : e.source.line < 2 ^ 32
  column_lt : e.source.column < 2 ^ 32

/-- Suppressing keeps an event well formed, whatever the reason. -/
theorem Event.WellFormed.suppress {e : Event} (h : e.WellFormed) (reason : Option String) :
    (e.suppress reason).WellFormed :=
  ⟨fun _ => rfl, h.shapeId_valid, h.line_lt, h.column_lt⟩

/-! ## §4. Reading the fields of an object -/

/-- What the fields read so far satisfy: every ID read is valid, every number
read fits 32 bits. -/
structure EventFields.Valid (f : EventFields) : Prop where
  shapeId_valid : ∀ id ∈ f.shapeId, id.Valid
  line_lt : f.line < 2 ^ 32
  column_lt : f.column < 2 ^ 32

theorem EventFields.valid_empty : ({} : EventFields).Valid :=
  ⟨(fun _ h => by cases h), by decide, by decide⟩

/-- Reading one entry keeps the fields valid: a shape ID, a line and a column
are only ever set from what their decoders accept. -/
theorem EventFields.take_valid {f f' : EventFields} {k : String} {v : Node} (hf : f.Valid)
    (h : f.take k v = .ok f') : f'.Valid := by
  unfold take at h
  split at h
  · obtain ⟨_, -, rfl⟩ := Except.map_eq_ok.mp h
    exact ⟨hf.1, hf.2, hf.3⟩
  split at h
  · obtain ⟨_, -, rfl⟩ := Except.map_eq_ok.mp h
    exact ⟨hf.1, hf.2, hf.3⟩
  split at h
  · obtain ⟨_, -, rfl⟩ := Except.map_eq_ok.mp h
    exact ⟨hf.1, hf.2, hf.3⟩
  split at h
  · obtain ⟨s, hs, rfl⟩ := Except.map_eq_ok.mp h
    exact ⟨valid_of_decodeShapeId hs, hf.2, hf.3⟩
  split at h
  · obtain ⟨_, -, rfl⟩ := Except.map_eq_ok.mp h
    exact ⟨hf.1, hf.2, hf.3⟩
  split at h
  · obtain ⟨n, hn, rfl⟩ := Except.map_eq_ok.mp h
    exact ⟨hf.1, lt_of_decodeU32 hn, hf.3⟩
  split at h
  · obtain ⟨n, hn, rfl⟩ := Except.map_eq_ok.mp h
    exact ⟨hf.1, hf.2, lt_of_decodeU32 hn⟩
  split at h
  · obtain ⟨_, -, rfl⟩ := Except.map_eq_ok.mp h
    exact ⟨hf.1, hf.2, hf.3⟩
  · cases h
    exact hf

/-- Reading any run of entries keeps the fields valid. -/
theorem EventFields.foldlM_take_valid :
    ∀ (entries : List (String × Node)) {f f' : EventFields}, f.Valid →
      entries.foldlM (fun (f : EventFields) (kv : String × Node) => f.take kv.1 kv.2) f = .ok f' →
        f'.Valid
  | [], _, _, hf, h => by
    cases h
    exact hf
  | (k, v) :: rest, _, _, hf, h => by
    simp only [List.foldlM_cons, Except.bind_eq_ok] at h
    obtain ⟨g, hg, hrest⟩ := h
    exact foldlM_take_valid rest (take_valid hf hg) hrest

/-- Whatever a node reads as, an object by its entries or an array by position,
the fields come from reading a run of entries into empty fields; the length and
presence checks only refuse. -/
theorem EventFields.ofNode_eq_ok {n : Node} {f : EventFields} (h : EventFields.ofNode n = .ok f) :
    ∃ entries : List (String × Node),
      entries.foldlM (fun (f : EventFields) (kv : String × Node) => f.take kv.1 kv.2) {} = .ok f := by
  unfold EventFields.ofNode at h
  split at h
  · simp only [Except.bind_eq_ok] at h
    obtain ⟨g, hg, h⟩ := h
    have hgf : g = f := by
      revert h
      split_ifs <;> simp [bind, Except.bind, pure, Except.pure, throw, throwThe, MonadExceptOf.throw]
    exact ⟨_, hgf ▸ hg⟩
  · simp only [Except.bind_eq_ok] at h
    obtain ⟨g, hg, h⟩ := h
    have hgf : g = f := by
      revert h
      -- the length checks, then the presence checks
      split_ifs <;> simp [bind, Except.bind, pure, Except.pure, throw, throwThe, MonadExceptOf.throw]
      split_ifs <;> simp
    exact ⟨_, hgf ▸ hg⟩
  · cases h

/-- Every node read as event fields gives valid fields. -/
theorem EventFields.ofNode_valid {n : Node} {f : EventFields} (h : EventFields.ofNode n = .ok f) :
    f.Valid := by
  obtain ⟨entries, hread⟩ := ofNode_eq_ok h
  exact foldlM_take_valid entries valid_empty hread

/-! ## §5. The round trip -/

/-- The fields an event's object holds. -/
def EventFields.ofEvent (e : Event) : EventFields :=
  { id := some e.id, severity := some e.severity, message := some e.message, shapeId := e.shapeId,
    filename := e.source.filename, line := e.source.line, column := e.source.column,
    reason := e.reason }

/-- The entries of a well-formed event's object read back as its fields. -/
theorem EventFields.ofNode_toNode {e : Event} (h : e.WellFormed) :
    EventFields.ofNode e.toNode = .ok (ofEvent e) := by
  rcases e with ⟨id, sev, msg, shapeId, ⟨file, line, col⟩, reason⟩
  have hline := decodeU32_of_lt h.line_lt
  have hcol := decodeU32_of_lt h.column_lt
  -- the optional entries are there or not; each case reads in one pass
  cases shapeId with
  | none =>
    cases reason <;>
      simp [Event.toNode, EventFields.ofNode, take, ofEvent, decodeString, decodeSeverity_name,
        decodeOptString, hline, hcol, Except.map, bind, Except.bind, pure, Except.pure]
  | some sid =>
    have hsid := ShapeId.decodeShapeId_text (h.shapeId_valid sid rfl)
    cases reason <;>
      simp [Event.toNode, EventFields.ofNode, take, ofEvent, decodeString, decodeSeverity_name,
        decodeOptString, hsid, hline, hcol, Except.map, bind, Except.bind, pure, Except.pure]

/-- **A well-formed event reads back from its JSON object.** -/
theorem Event.ofNode_toNode {e : Event} (h : e.WellFormed) : Event.ofNode e.toNode = .ok e := by
  unfold Event.ofNode
  rw [EventFields.ofNode_toNode h]
  exact EventDraft.build_eq_ok.mpr ⟨rfl, rfl, rfl, h.reason_suppressed, rfl, rfl, rfl⟩

/-- **Every event read from a node is well formed**: the build checks the reason,
and the fields read are valid. -/
theorem Event.ofNode_wellFormed {n : Node} {e : Event} (h : Event.ofNode n = .ok e) :
    e.WellFormed := by
  unfold Event.ofNode at h
  split at h
  · cases h
  · next f hf =>
    obtain ⟨-, -, -, hreason, hshape, hsource, hr⟩ := EventDraft.build_eq_ok.mp h
    have hv := EventFields.ofNode_valid hf
    refine ⟨fun hs => hreason (hr ▸ hs), ?_, ?_, ?_⟩
    · rw [hshape]
      exact hv.shapeId_valid
    · rw [hsource]
      exact hv.line_lt
    · rw [hsource]
      exact hv.column_lt

/-- **Event round trip.** Every event whose reason, if any, is on a `SUPPRESSED`
event (and whose shape ID and place have the forms their types give) reads back
from its JSON object; and every event read from a node reads back from its
object, so writing after reading is idempotent on the nodes that read as events. -/
theorem Event.ofNode_toNode_roundTrip :
    (∀ e : Event, e.WellFormed → Event.ofNode e.toNode = .ok e) ∧
    ∀ (n : Node) (e : Event), Event.ofNode n = .ok e → Event.ofNode e.toNode = .ok e :=
  ⟨fun _ h => ofNode_toNode h, fun _ _ h => ofNode_toNode (ofNode_wellFormed h)⟩

/-- The event of a broken target on `ns#Foo$bar`, at line 4, column 2 of `model.json`. -/
def brokenTargetEvent : Event :=
  { id := "Target", severity := .error, message := "Broken target",
    shapeId := some ⟨"ns", "Foo", some "bar"⟩, source := ⟨"model.json", 4, 2⟩ }

theorem Event.ofNode_toNode_roundTrip_brokenTarget :
    brokenTargetEvent.WellFormed ∧ Event.ofNode brokenTargetEvent.toNode = .ok brokenTargetEvent :=
  have h : brokenTargetEvent.WellFormed :=
    ⟨(fun h => by cases h),
      (fun id hid => by
        cases hid
        exact ShapeId.Valid.of_parts (by decide +kernel) (by decide +kernel)
          (fun m hm => by cases hm; decide +kernel)),
      by decide, by decide⟩
  ⟨h, Event.ofNode_toNode_roundTrip.1 _ h⟩

end ShapeKit
