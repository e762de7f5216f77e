import Mathlib.Data.List.Forall2
import Mathlib.Data.List.Nodup
import ShapeKit.Proofs.ModelMembers
import ShapeKit.Proofs.UriGrammar
import ShapeKit.Validation.Builtin

/-!
# HTTP labels and the members bound to them

`checkHttpLabels` compares the `httpLabel` members of an operation's input with
the labels of the URI of its `http` trait, in two loops that run in opposite
directions: one over the members of the input, for `httpLabel` members whose
name is no label; one over the labels, for a label that no `httpLabel` member
is named after, and, for a label bound to such a member, whether the member is
`required` and whether a greedy label's member targets a string.

`LabelFault` names the four things the check can find, and `LabelFault.Holds`
says when each holds, from the input and the labels alone. The faults found,
in the order they are reported (`labelFaults`), are exactly the faults that
hold, each once, when the input's members have distinct names (every built
shape's do) and the labels have distinct names (every URI that reads has them).

Main statements:
  * `HttpBinding.labels_nodup` — the labels of an `http` value that reads have
    distinct names.
  * `checkHttpLabels_eq_map_labelFaults` — the events are the faults found, as events.
  * `mem_labelFaults_iff`, `labelFaults_nodup` — the faults found are the faults
    that hold, each once.
  * `checkHttpLabels_one_event_per_fault` — one event per fault that holds and
    no other, hence no event exactly when the `httpLabel` members are the labels,
    all `required`, greedy labels bound to string (or unresolved) targets.
-/

namespace ShapeKit

open Json

/-! ## §1. The labels of an `http` value -/

/-- The URI of an `http` value that reads is a pattern that reads. -/
theorem HttpBinding.uri_of_ofNode {v : Node} {http : HttpBinding} (h : HttpBinding.ofNode v = .ok http) :
    ∃ s, UriPattern.parse s = .ok http.uri := by
  unfold HttpBinding.ofNode at h
  simp only [Except.bind_eq_ok] at h
  obtain ⟨es, -, h⟩ := h
  cases hm : Node.lookup "method" es with
  | none => simp [hm, throw, throwThe, MonadExceptOf.throw] at h
  | some m =>
    simp only [hm, Except.bind_eq_ok] at h
    obtain ⟨method, -, h⟩ := h
    split at h
    · simp [throw, throwThe, MonadExceptOf.throw, bind, Except.bind] at h
    cases hu : Node.lookup "uri" es with
    | none => simp [hu, throw, throwThe, MonadExceptOf.throw] at h
    | some u =>
      simp only [hu, Except.bind_eq_ok] at h
      obtain ⟨s, -, h⟩ := h
      cases hp : UriPattern.parse s with
      | error e => simp [hp, throw, throwThe, MonadExceptOf.throw, bind, Except.bind] at h
      | ok p =>
        refine ⟨s, ?_⟩
        simp only [hp, Except.bind_eq_ok, Except.pure_eq_ok, exists_eq_left'] at h
        rw [hp]
        -- the status code is read last, around the same record
        split at h
        · simp [bind, Except.bind, pure, Except.pure] at h
          rw [← h]
        · split at h
          · simp [bind, Except.bind, pure, Except.pure] at h
            rw [← h]
          · simp [bind, Except.bind, throw, throwThe, MonadExceptOf.throw] at h
        · simp [bind, Except.bind, throw, throwThe, MonadExceptOf.throw] at h

/-- The labels of an `http` value that reads have distinct names. -/
theorem HttpBinding.labels_nodup {v : Node} {http : HttpBinding} (h : HttpBinding.ofNode v = .ok http) :
    (http.uri.labels.map (·.name)).Nodup := by
  obtain ⟨s, hs⟩ := uri_of_ofNode h
  obtain ⟨-, -, -, -, -, -, hnd, -⟩ := UriPattern.parse_eq_ok_iff.mp hs
  exact hnd

/-! ## §2. Faults -/

/-- The input of an operation, as the model resolves it. -/
def Model.inputOf (m : Model) (op : Shape) : Option Shape :=
  (op.operation?.bind (·.input)).bind m.get?

/-- A label is bound to a member of the input: one named after the label that
carries `httpLabel`. -/
def LabelBound (input : Option Shape) (l : UriLabel) (mem : Shape) : Prop :=
  ∃ i, input = some i ∧ mem ∈ i.memberShapes ∧ mem.memberName = some l.name ∧
    mem.hasPreludeTrait "httpLabel" = true

/-- What the `httpLabel` check can find wrong with an operation bound to a URI. -/
inductive LabelFault where
  /-- An `httpLabel` member whose name is no label of the URI. -/
  | unlabelledMember (member : Shape)
  /-- A label of the URI that no `httpLabel` member of the input is named after. -/
  | unboundLabel (label : UriLabel)
  /-- A label bound to a member that lacks `required`. -/
  | optionalMember (label : UriLabel) (member : Shape)
  /-- A greedy label bound to a member whose target resolves to no string. -/
  | greedyNonString (label : UriLabel) (member : Shape)

namespace LabelFault

/-- When a fault holds of an input and the labels of a URI. -/
def Holds (m : Model) (input : Option Shape) (labels : List UriLabel) : LabelFault → Prop
  | .unlabelledMember mem => (∃ i, input = some i ∧ mem ∈ i.memberShapes) ∧
      mem.hasPreludeTrait "httpLabel" = true ∧ ∀ l ∈ labels, mem.memberName ≠ some l.name
  | .unboundLabel l => l ∈ labels ∧ ∀ mem, ¬ LabelBound input l mem
  | .optionalMember l mem => l ∈ labels ∧ LabelBound input l mem ∧
      mem.hasPreludeTrait "required" = false
  | .greedyNonString l mem => l ∈ labels ∧ l.greedy = true ∧ LabelBound input l mem ∧
      ∃ t, mem.target.bind m.get? = some t ∧ t.type ≠ .string

/-- The event the check reports for a fault of an operation. -/
def event (op : Shape) : LabelFault → Event
  | .unlabelledMember mem =>
    let name := mem.memberName.getD ""
    shapeEvent "HttpLabelTrait" .error mem
      s!"This `{name}` structure member is marked with the `httpLabel` trait, but no corresponding `http` URI label could be found when used as the input of the `{op.id.text}` operation."
  | .unboundLabel l => shapeEvent "HttpLabelTrait" .error op
      s!"The `{l.name}` URI label of the `{op.id.text}` operation has no input structure member marked with the `httpLabel` trait."
  | .optionalMember l mem => shapeEvent "HttpLabelTrait" .error mem
      s!"This `{l.name}` structure member is bound to the `{l.name}` URI label of the `{op.id.text}` operation and must be marked with the `required` trait."
  | .greedyNonString l mem => shapeEvent "HttpLabelTrait" .error mem
      s!"The `{l.name}` structure member corresponds to a greedy label in the `{op.id.text}` operation, so it must target a string shape."

end LabelFault

/-- The `httpLabel` members of the input whose name is no label, in member order. -/
def unlabelledMembers (input : Option Shape) (uri : UriPattern) : List LabelFault :=
  match input with
  | some i => i.memberShapes.filterMap fun mem =>
      if mem.hasPreludeTrait "httpLabel" && (uri.label? (mem.memberName.getD "")).isNone then
        some (.unlabelledMember mem)
      else none
  | none => []

/-- The faults of one label: unbound, or the faults of the member bound to it. -/
def labelFaultsOf (m : Model) (input : Option Shape) (label : UriLabel) : List LabelFault :=
  match input.bind (·.member? label.name) with
  | some mem =>
    if mem.hasPreludeTrait "httpLabel" then
      (if !mem.hasPreludeTrait "required" then [.optionalMember label mem] else []) ++
        match (mem.target.bind m.get?).map (·.type) with
        | some t => if label.greedy && t != .string then [.greedyNonString label mem] else []
        | none => []
    else [.unboundLabel label]
  | none => [.unboundLabel label]

/-- The faults the check finds, in the order it reports them. -/
def labelFaults (m : Model) (op : Shape) (http : HttpBinding) : List LabelFault :=
  unlabelledMembers (m.inputOf op) http.uri ++ http.uri.labels.flatMap (labelFaultsOf m (m.inputOf op))

/-- **The events are the faults found.** -/
theorem checkHttpLabels_eq_map_labelFaults (m : Model) (op : Shape) (http : HttpBinding) :
    checkHttpLabels m op http = (labelFaults m op http).map (LabelFault.event op) := by
  unfold checkHttpLabels labelFaults unlabelledMembers labelFaultsOf Model.inputOf
  simp only [List.map_append, List.map_flatMap]
  -- both sides read the same input, member, traits and target: split on each once
  rcases (op.operation?.bind (·.input)).bind m.get? with _ | i
  · simp only [Option.bind_none]
    congr 1
  · simp only [Option.bind_some, List.map_filterMap]
    congr 1
    · congr 1
      funext mem
      split <;> rfl
    · congr 1
      funext label
      cases i.member? label.name with
      | none => rfl
      | some mem =>
        dsimp only
        cases mem.hasPreludeTrait "httpLabel"
        · rfl
        · cases (mem.target.bind m.get?).map (·.type) <;>
            simp only [if_true, List.map_append, apply_ite (List.map (LabelFault.event op)),
              List.map_cons, List.map_nil] <;> rfl

/-! ## §3. The faults found are the faults that hold -/

/-- The label a fault is about; none for a member no label names. -/
def LabelFault.label? : LabelFault → Option UriLabel
  | .unlabelledMember _ => none
  | .unboundLabel l | .optionalMember l _ | .greedyNonString l _ => some l

theorem UriPattern.label?_isNone_iff {uri : UriPattern} {n : String} :
    (uri.label? n).isNone = true ↔ ∀ l ∈ uri.labels, l.name ≠ n := by
  simp [UriPattern.label?, List.find?_eq_none]

/-- A member of a well-formed shape has a name, so the label lookup of its name
finds nothing exactly when no label is named after it. -/
theorem label?_memberName_isNone_iff {i mem : Shape} (hi : i.WellFormed)
    (hmem : mem ∈ i.memberShapes) {uri : UriPattern} :
    (uri.label? (mem.memberName.getD "")).isNone = true ↔
      ∀ l ∈ uri.labels, mem.memberName ≠ some l.name := by
  obtain ⟨n, hn, -⟩ := hi.member?_of_mem hmem
  simp only [Shape.memberName, hn, Option.getD_some, UriPattern.label?_isNone_iff, ne_eq,
    Option.some.injEq]
  exact forall₂_congr fun _ _ => by rw [eq_comm]

section Found

variable {m : Model} {input : Option Shape} (hin : ∀ i ∈ input, i.WellFormed)
include hin

/-- A label is bound to the member of its name, when that member carries `httpLabel`. -/
theorem labelBound_iff {l : UriLabel} {mem : Shape} :
    LabelBound input l mem ↔
      input.bind (·.member? l.name) = some mem ∧ mem.hasPreludeTrait "httpLabel" = true := by
  cases input with
  | none => simp [LabelBound]
  | some i =>
    rw [Option.bind_some, (hin i rfl).member?_eq_some_iff]
    simp [LabelBound, Shape.memberName, and_assoc]

/-- A label is bound to one member at most. -/
theorem LabelBound.unique {l : UriLabel} {a b : Shape}
    (ha : LabelBound input l a) (hb : LabelBound input l b) : a = b := by
  rw [labelBound_iff hin] at ha hb
  exact Option.some.inj (ha.1.symm.trans hb.1)

theorem mem_unlabelledMembers_iff {uri : UriPattern} {f : LabelFault} :
    f ∈ unlabelledMembers input uri ↔ f.label? = none ∧ f.Holds m input uri.labels := by
  cases input with
  | none => cases f <;> simp [unlabelledMembers, LabelFault.Holds, LabelFault.label?]
  | some i =>
    simp only [unlabelledMembers, List.mem_filterMap, Option.ite_none_right_eq_some,
      Option.some.injEq, Bool.and_eq_true]
    constructor
    · rintro ⟨mem, hmem, ⟨hlab, hnone⟩, rfl⟩
      exact ⟨rfl, ⟨i, rfl, hmem⟩, hlab, (label?_memberName_isNone_iff (hin i rfl) hmem).mp hnone⟩
    · intro ⟨hl, hh⟩
      cases f with
      | unlabelledMember mem =>
        obtain ⟨⟨_, ⟨⟩, hmem⟩, hlab, hne⟩ := hh
        exact ⟨mem, hmem, ⟨hlab, (label?_memberName_isNone_iff (hin i rfl) hmem).mpr hne⟩, rfl⟩
      | _ => simp [LabelFault.label?] at hl

theorem mem_labelFaultsOf_iff {l : UriLabel} {f : LabelFault} :
    f ∈ labelFaultsOf m input l ↔ f.label? = some l ∧ f.Holds m input [l] := by
  unfold labelFaultsOf
  cases hb : input.bind (·.member? l.name) with
  | none =>
    -- no member of the label's name: only the label is unbound
    have hnb : ∀ mem, ¬ LabelBound input l mem := fun mem h => by
      simp [(labelBound_iff hin).mp h |>.1] at hb
    cases f <;> simp +contextual [LabelFault.label?, LabelFault.Holds, hnb]
  | some mem =>
    have hbound : ∀ mem', LabelBound input l mem' ↔
        mem' = mem ∧ mem.hasPreludeTrait "httpLabel" = true := fun mem' => by
      rw [labelBound_iff hin, hb]
      grind
    cases hlab : mem.hasPreludeTrait "httpLabel"
    · cases f <;> simp +contextual [LabelFault.label?, LabelFault.Holds, hbound, hlab]
    · cases ht : mem.target.bind m.get? <;> cases f <;>
        simp +contextual [LabelFault.label?, LabelFault.Holds, hbound, hlab, ht] <;> grind

/-- Each label's faults name that label. -/
theorem label?_of_mem_labelFaultsOf {l : UriLabel} {f : LabelFault}
    (hf : f ∈ labelFaultsOf m input l) : f.label? = some l :=
  ((mem_labelFaultsOf_iff hin).mp hf).1

/-- The `httpLabel` members are reported once each: the members of a
well-formed shape are distinct. -/
theorem unlabelledMembers_nodup (uri : UriPattern) : (unlabelledMembers input uri).Nodup := by
  cases input with
  | none => exact List.nodup_nil
  | some i =>
    have hnd : i.memberShapes.Nodup := (hin i rfl).ids_nodup.of_map _
    refine hnd.filterMap fun a a' f ha ha' => ?_
    split_ifs at ha ha' <;> simp only [Option.mem_def, Option.some.injEq, reduceCtorEq] at ha ha'
    exact LabelFault.unlabelledMember.inj (ha.trans ha'.symm)

/-- No fault holds exactly when every `httpLabel` member is named after a label
and every label is bound to a `required` member, a greedy one's target being a
string or unresolved. -/
theorem no_fault_holds_iff {labels : List UriLabel} :
    (∀ f : LabelFault, ¬ f.Holds m input labels) ↔
      (∀ i mem, input = some i → mem ∈ i.memberShapes → mem.hasPreludeTrait "httpLabel" = true →
        ∃ l ∈ labels, mem.memberName = some l.name) ∧
      ∀ l ∈ labels, ∃ mem, LabelBound input l mem ∧ mem.hasPreludeTrait "required" = true ∧
        (l.greedy = true → ∀ t, mem.target.bind m.get? = some t → t.type = .string) := by
  constructor
  · intro h
    refine ⟨fun i mem hi hmem hlab => ?_, fun l hl => ?_⟩
    · by_contra hne
      push Not at hne
      exact h (.unlabelledMember mem) ⟨⟨i, hi, hmem⟩, hlab, hne⟩
    · have hbound : ∃ mem, LabelBound input l mem := by
        by_contra hnb
        push Not at hnb
        exact h (.unboundLabel l) ⟨hl, hnb⟩
      obtain ⟨mem, hb⟩ := hbound
      refine ⟨mem, hb, ?_, fun hg t ht => ?_⟩
      · by_contra hr
        exact h (.optionalMember l mem) ⟨hl, hb, by simpa using hr⟩
      · by_contra hs
        exact h (.greedyNonString l mem) ⟨hl, hg, hb, t, ht, hs⟩
  · rintro ⟨hmembers, hlabels⟩ f hf
    cases f with
    | unlabelledMember mem =>
      obtain ⟨⟨i, hi, hmem⟩, hlab, hne⟩ := hf
      obtain ⟨l, hl, he⟩ := hmembers i mem hi hmem hlab
      exact hne l hl he
    | unboundLabel l =>
      obtain ⟨mem, hb, -⟩ := hlabels l hf.1
      exact hf.2 mem hb
    | optionalMember l mem =>
      obtain ⟨hl, hb, hr⟩ := hf
      obtain ⟨mem', hb', hr', -⟩ := hlabels l hl
      rw [LabelBound.unique hin hb hb', hr'] at hr
      cases hr
    | greedyNonString l mem =>
      obtain ⟨hl, hg, hb, t, ht, hs⟩ := hf
      obtain ⟨mem', hb', -, hstr⟩ := hlabels l hl
      rw [LabelBound.unique hin hb hb'] at ht
      exact hs (hstr hg t ht)

end Found

/-- The `httpLabel` members' faults name no label. -/
theorem label?_of_mem_unlabelledMembers {input : Option Shape} {uri : UriPattern} {f : LabelFault}
    (hf : f ∈ unlabelledMembers input uri) : f.label? = none := by
  unfold unlabelledMembers at hf
  split at hf
  · obtain ⟨mem, -, hmem⟩ := List.mem_filterMap.mp hf
    split_ifs at hmem
    cases hmem
    rfl
  · cases hf

/-- A label reports at most once each fault. -/
theorem labelFaultsOf_nodup (m : Model) (input : Option Shape) (l : UriLabel) :
    (labelFaultsOf m input l).Nodup := by
  unfold labelFaultsOf
  repeat' split
  all_goals simp_all

/-- The input of an operation in a model of well-formed shapes is well formed. -/
theorem Model.inputOf_wellFormed {m : Model} (hm : ∀ s ∈ m.shapes, s.WellFormed) (op : Shape) :
    ∀ i ∈ m.inputOf op, i.WellFormed := by
  intro i hi
  obtain ⟨k, -, hk⟩ := Option.bind_eq_some_iff.mp hi
  exact hm i (List.mem_of_find?_eq_some hk)

section Operation

variable {m : Model} (hm : ∀ s ∈ m.shapes, s.WellFormed) {op : Shape} {http : HttpBinding}
include hm

/-- **The faults found are the faults that hold.** -/
theorem mem_labelFaults_iff {f : LabelFault} :
    f ∈ labelFaults m op http ↔ f.Holds m (m.inputOf op) http.uri.labels := by
  have hin := Model.inputOf_wellFormed hm op
  rw [labelFaults, List.mem_append, mem_unlabelledMembers_iff (m := m) hin, List.mem_flatMap]
  simp only [mem_labelFaultsOf_iff hin]
  cases f <;> simp [LabelFault.label?, LabelFault.Holds]

/-- **Each fault is found once**, when the labels have distinct names. -/
theorem labelFaults_nodup (hl : (http.uri.labels.map (·.name)).Nodup) :
    (labelFaults m op http).Nodup := by
  have hin := Model.inputOf_wellFormed hm op
  rw [labelFaults, List.nodup_append]
  refine ⟨unlabelledMembers_nodup hin _, ?_, ?_⟩
  · -- faults of distinct labels are distinct: each names its own label
    refine List.nodup_flatMap.mpr ⟨fun l _ => labelFaultsOf_nodup m _ l, ?_⟩
    refine (hl.of_map _).imp fun hne f ha hb => hne ?_
    exact Option.some.inj ((label?_of_mem_labelFaultsOf hin ha).symm.trans
      (label?_of_mem_labelFaultsOf hin hb))
  · intro a ha b hb hab
    obtain ⟨l, -, hb⟩ := List.mem_flatMap.mp hb
    have h1 := label?_of_mem_unlabelledMembers ha
    rw [hab, label?_of_mem_labelFaultsOf hin hb] at h1
    cases h1

end Operation


/-- **One event per fault that holds, and no other.** For an operation whose
`http` value reads, in a model of well-formed shapes, the events of the check
are, in order, the events of a list of faults that holds each fault once and
holds exactly the faults that hold; hence the check is silent exactly when the
`httpLabel` members of the input are the labels of the URI, each `required`,
greedy labels bound to members whose target is a string or unresolved. -/
theorem checkHttpLabels_one_event_per_fault (m : Model) (op : Shape) (v : Node)
    (http : HttpBinding) (hm : ∀ s ∈ m.shapes, s.WellFormed)
    (hhttp : HttpBinding.ofNode v = .ok http) :
    ∃ faults : List LabelFault,
      List.Forall₂ (fun f e => e = f.event op) faults (checkHttpLabels m op http) ∧
      faults.Nodup ∧ (∀ f, f ∈ faults ↔ f.Holds m (m.inputOf op) http.uri.labels) ∧
      (checkHttpLabels m op http = [] ↔
        (∀ i mem, m.inputOf op = some i → mem ∈ i.memberShapes →
          mem.hasPreludeTrait "httpLabel" = true → ∃ l ∈ http.uri.labels, mem.memberName = some l.name) ∧
        ∀ l ∈ http.uri.labels, ∃ mem, LabelBound (m.inputOf op) l mem ∧
          mem.hasPreludeTrait "required" = true ∧
          (l.greedy = true → ∀ t, mem.target.bind m.get? = some t → t.type = .string)) := by
  refine ⟨labelFaults m op http, ?_, labelFaults_nodup hm (HttpBinding.labels_nodup hhttp),
    fun f => mem_labelFaults_iff hm, ?_⟩
  · rw [checkHttpLabels_eq_map_labelFaults, List.forall₂_map_right_iff]
    exact List.forall₂_same.mpr fun _ _ => rfl
  · rw [← no_fault_holds_iff (Model.inputOf_wellFormed hm op), checkHttpLabels_eq_map_labelFaults,
      List.map_eq_nil_iff, List.eq_nil_iff_forall_not_mem]
    simp only [mem_labelFaults_iff hm]

/-- The input of a `GET /{foo}` operation: one member `foo`, `required` and an
`httpLabel`, targeting the prelude string. -/
def getFooInput : Shape :=
  ⟨⟨"ns", "GetFooInput", none⟩,
    .structure [⟨⟨"ns", "GetFooInput", some "foo"⟩, ShapeId.prelude "String",
      [⟨ShapeId.prelude "required", .obj [], SourceLocation.none⟩,
        ⟨ShapeId.prelude "httpLabel", .obj [], SourceLocation.none⟩], SourceLocation.none⟩],
    [], SourceLocation.none⟩

/-- The operation taking `getFooInput`. -/
def getFoo : Shape :=
  ⟨⟨"ns", "GetFoo", none⟩, .operation { input := some ⟨"ns", "GetFooInput", none⟩ }, [],
    SourceLocation.none⟩

/-- Its `http` value, and the binding it reads as. -/
def getFooHttp : Node := .obj [("method", .str "GET"), ("uri", .str "/{foo}")]

def getFooBinding : HttpBinding :=
  { method := "GET", uri := ⟨"/{foo}", [.label ⟨"foo", false⟩], none⟩, code := 200 }

/-- The model holding the input. -/
def getFooModel : Model := { shapes := [getFooInput] }

theorem getFooInput_wellFormed : getFooInput.WellFormed where
  id_isMember := rfl
  simple _ h := nomatch h
  member_id := by decide +kernel
  names_nodup := by decide +kernel
  fixed _ h := nomatch h

theorem HttpBinding.ofNode_getFooHttp : HttpBinding.ofNode getFooHttp = .ok getFooBinding := by
  have hp : UriPattern.parse "/{foo}" = .ok ⟨"/{foo}", [.label ⟨"foo", false⟩], none⟩ := by
    decide +kernel
  simp [HttpBinding.ofNode, getFooHttp, hp, TraitRead.object, TraitRead.string, Node.lookup, bind,
    Except.bind, pure, Except.pure, getFooBinding]

theorem checkHttpLabels_one_event_per_fault_getFoo :
    (∀ s ∈ getFooModel.shapes, s.WellFormed) ∧
    HttpBinding.ofNode getFooHttp = .ok getFooBinding ∧
    ∃ faults : List LabelFault,
      List.Forall₂ (fun f e => e = f.event getFoo) faults
        (checkHttpLabels getFooModel getFoo getFooBinding) ∧
      faults.Nodup ∧
      (∀ f, f ∈ faults ↔
        f.Holds getFooModel (getFooModel.inputOf getFoo)
          getFooBinding.uri.labels) ∧
      (checkHttpLabels getFooModel getFoo getFooBinding = [] ↔
        (∀ i mem, getFooModel.inputOf getFoo = some i → mem ∈ i.memberShapes →
          mem.hasPreludeTrait "httpLabel" = true →
            ∃ l ∈ getFooBinding.uri.labels, mem.memberName = some l.name) ∧
        ∀ l ∈ getFooBinding.uri.labels,
          ∃ mem, LabelBound (getFooModel.inputOf getFoo) l mem ∧
            mem.hasPreludeTrait "required" = true ∧
            (l.greedy = true → ∀ t, mem.target.bind getFooModel.get? = some t →
              t.type = .string)) := by
  have hwf : ∀ s ∈ getFooModel.shapes, s.WellFormed := by
    simp only [getFooModel, List.mem_singleton, forall_eq]
    exact getFooInput_wellFormed
  exact ⟨hwf, HttpBinding.ofNode_getFooHttp,
    checkHttpLabels_one_event_per_fault _ getFoo getFooHttp getFooBinding hwf
      HttpBinding.ofNode_getFooHttp⟩

end ShapeKit
