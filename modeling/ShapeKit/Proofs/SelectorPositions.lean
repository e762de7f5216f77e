import Mathlib.Tactic.SplitIfs
import ShapeKit.Selector.Parser

/-!
# Where a selector stops reading

Every reader of the selector grammar leaves a suffix of its input, whether it
reads or fails: the primitive readers, the separated lists and repetitions,
the alternatives (which keep the failure that read further), `cut`, and
`steps` at every depth of nesting (`reads_steps`). Since a failure's position
is the byte size of the expression less that of the rest it stopped at, every
position is the byte offset of a part the expression starts with.

The lists the grammar reads are never empty (`sepBy1_ne_nil`,
`argumentsWith_ne_nil`): an attribute path has a first segment and a function
has a first selector.

Main statement: `parse_positions_faithful`.
-/

namespace ShapeKit.Selector

/-! ## §1. The rest an outcome leaves -/

/-- The rest of the input an outcome leaves: after the piece read, or where it failed. -/
def Outcome.rest {α : Type} : Outcome α → List Char
  | .ok (r, _) => r
  | .error m => m.rest

/-- A reader leaves a suffix of its input, whether it reads or fails. -/
def Reads {α : Type} (p : List Char → Outcome α) : Prop := ∀ s, (p s).rest <:+ s

@[simp] theorem Outcome.rest_ok {α : Type} (v : List Char × α) : Outcome.rest (.ok v) = v.1 := rfl
@[simp] theorem Outcome.rest_error {α : Type} (m : Miss) : Outcome.rest (Except.error m : Outcome α) = m.rest :=
  rfl
@[simp] theorem Miss.rest_miss (r : List Char) (m : String) : (Miss.miss r m).rest = r := rfl
@[simp] theorem Miss.rest_stop (r : List Char) (m : String) : (Miss.stop r m).rest = r := rfl
@[simp] theorem Miss.rest_harden (m : Miss) : m.harden.rest = m.rest := by cases m <;> rfl

namespace Reads

variable {α β : Type} {p : List Char → Outcome α}

theorem ok (hp : Reads p) {s r : List Char} {x : α} (h : p s = .ok (r, x)) : r <:+ s := by
  simpa [h] using hp s

theorem error (hp : Reads p) {s : List Char} {m : Miss} (h : p s = .error m) : m.rest <:+ s := by
  simpa [h] using hp s

/-- A reader whose value is changed, and its rest moved on by a suffix, still reads. -/
theorem map (hp : Reads p) {f : List Char × α → List Char × β} (hf : ∀ r x, (f (r, x)).1 <:+ r) :
    Reads fun s => (p s).map f := by
  intro s
  show Outcome.rest ((p s).map f) <:+ s
  cases h : p s with
  | error m => simpa [Except.map] using hp.error h
  | ok v =>
    obtain ⟨r, x⟩ := v
    simpa [Except.map] using (hf r x).trans (hp.ok h)

end Reads

/-! ## §2. Blanks, characters, words and lists -/

theorem ws_suffix (s : List Char) : ws s <:+ s := List.dropWhile_suffix _

theorem reads_spaces1 : Reads spaces1 := by
  intro s
  unfold spaces1
  split
  · split <;> simp [unexpected, ws_suffix]
  · simp [unexpected]

theorem reads_char (c : Char) : Reads (char c) := by
  intro s
  unfold char
  split
  · split <;> simp [unexpected, List.suffix_cons]
  · simp [unexpected]

theorem reads_expect (c : Char) : Reads (expect c) := by
  intro s
  unfold expect
  split
  · split <;> simp [stopAt, List.suffix_cons]
  · simp [stopAt]

theorem reads_tag (t : String) : Reads (tag t) := by
  intro s
  unfold tag
  dsimp only
  split <;> simp [unexpected, List.drop_suffix]

theorem reads_takeWhile1 (p : Char → Bool) : Reads (takeWhile1 p) := by
  intro s
  unfold takeWhile1
  split
  · split <;> simp [unexpected, List.dropWhile_suffix]
  · simp [unexpected]

theorem reads_takeUntil (c : Char) : Reads (takeUntil c) := by
  intro s
  unfold takeUntil
  split <;> simp [unexpected, List.dropWhile_suffix]

theorem reads_identifier : Reads identifier := reads_takeWhile1 _

/-- Of two failures, the one kept stopped where one of them did. -/
theorem Miss.further_rest_suffix {a b : Miss} {s : List Char} (ha : a.rest <:+ s) (hb : b.rest <:+ s) :
    (Miss.further a b).rest <:+ s := by
  unfold Miss.further
  split_ifs
  · exact hb
  · exact ha

theorem reads_orElse {α : Type} {p q : List Char → Outcome α} (hp : Reads p) (hq : Reads q) :
    Reads (orElse p q) := by
  intro s
  unfold orElse
  split
  · next r m h =>
    split
    · next r' m' h' => exact Miss.further_rest_suffix (hp.error h) (hq.error h')
    · exact hq s
  · exact hp s

theorem reads_cut {α : Type} {p : List Char → Outcome α} (hp : Reads p) : Reads (cut p) := by
  intro s
  unfold cut
  split
  · next m h => simpa using hp.error h
  · next h => simpa [h] using hp s

theorem reads_comma : Reads comma :=
  fun s => ((reads_char ',').map fun r _ => ws_suffix r) (ws s) |>.trans (ws_suffix s)

theorem reads_sepBy1_more {α β : Type} {sep : List Char → Outcome β} {item : List Char → Outcome α}
    (hsep : Reads sep) (hitem : Reads item) :
    ∀ fuel r acc, (sepBy1.more sep item fuel r acc).rest <:+ r
  | 0, r, acc => by simp [sepBy1.more]
  | fuel + 1, r, acc => by
    unfold sepBy1.more
    split
    · simp
    · next e _ he => exact hsep.error he
    · next r1 _ h1 =>
      have hr1 := hsep.ok h1
      split
      · simpa [unexpected] using hr1
      · split
        · simp
        · next e _ he => exact (hitem.error he).trans hr1
        · next r2 y h2 => exact ((reads_sepBy1_more hsep hitem fuel r2 _).trans (hitem.ok h2)).trans hr1

theorem reads_sepBy1 {α β : Type} {sep : List Char → Outcome β} {item : List Char → Outcome α}
    (hsep : Reads sep) (hitem : Reads item) : Reads (sepBy1 sep item) := by
  intro s
  unfold sepBy1
  split
  · next e he => exact hitem.error he
  · next r x h => exact (reads_sepBy1_more hsep hitem _ r _).trans (hitem.ok h)

/-! ## §3. Attributes -/

theorem reads_pathSegment : Reads pathSegment := by
  refine reads_orElse (fun s => ?_) (reads_takeWhile1 _)
  split
  · next e he => exact (reads_char _).error he
  · next r _ h =>
    have hr := (reads_char _).ok h
    split
    · next e he => exact (reads_identifier.error he).trans hr
    · next r2 _ h2 =>
      have hr2 := reads_identifier.ok h2
      split
      · next e he => exact ((reads_char _).error he).trans (hr2.trans hr)
      · next r3 _ h3 => exact ((reads_char _).ok h3).trans (hr2.trans hr)

theorem reads_path : Reads path := reads_sepBy1 (reads_char _) reads_pathSegment

theorem reads_attributePath : Reads attributePath := by
  intro s
  unfold attributePath
  split
  · next r p h =>
    split
    · exact reads_path.ok h
    · simp [stopAt]
  · next e h => exact reads_path.error h

theorem reads_comparator_go (s : List Char) :
    ∀ cs acc, (∀ m ∈ acc, Miss.rest m <:+ s) → (comparator.go s cs acc).rest <:+ s
  | [], none, _ => by simp [comparator.go, unexpected]
  | [], some m, hacc => by simpa [comparator.go] using hacc m rfl
  | (t, c) :: rest, acc, hacc => by
    unfold comparator.go
    split
    · next r _ h => exact (reads_tag t).ok h
    · next m h =>
      have hm := (reads_tag t).error h
      apply reads_comparator_go s rest
      intro m' hm'
      cases acc with
      | none => cases hm'; exact hm
      | some a =>
        cases hm'
        exact Miss.further_rest_suffix (hacc a rfl) hm

theorem reads_comparator : Reads comparator := fun s =>
  reads_comparator_go s comparators none (by simp)

theorem reads_caseFlag : Reads caseFlag := by
  intro s
  unfold caseFlag
  split
  · next r _ h =>
    split
    · next r2 _ h2 =>
      dsimp only
      split
      · exact ((reads_char _).ok h2).trans (reads_spaces1.ok h)
      · simp
    · simp
  · simp

theorem reads_quotedWith (q : Char) : Reads (quotedWith q) := by
  intro s
  unfold quotedWith
  split
  · next e he => exact (reads_char q).error he
  · next r _ h =>
    have hr := (reads_char q).ok h
    split
    · next e he => exact ((reads_takeUntil q).error he).trans hr
    · next r2 _ h2 =>
      have hr2 := ((reads_takeUntil q).ok h2).trans hr
      split
      · next e he => exact ((reads_char q).error he).trans hr2
      · next r3 _ h3 => exact ((reads_char q).ok h3).trans hr2

theorem reads_value : Reads value :=
  reads_orElse (reads_orElse (reads_quotedWith _) (reads_quotedWith _)) (reads_takeWhile1 _)

theorem reads_comparison : Reads comparison := by
  intro s
  unfold comparison
  split
  · next e he => exact (reads_comparator.error he).trans (ws_suffix s)
  · next r _ h =>
    have hr := (reads_comparator.ok h).trans (ws_suffix s)
    split
    · next e he => exact (((reads_cut (reads_sepBy1 reads_comma reads_value)).error he).trans
        (ws_suffix r)).trans hr
    · next r2 _ h2 =>
      have hr2 := (((reads_cut (reads_sepBy1 reads_comma reads_value)).ok h2).trans
        (ws_suffix r)).trans hr
      split
      · next e he => exact (reads_caseFlag.error he).trans hr2
      · next r3 _ h3 => exact (reads_caseFlag.ok h3).trans hr2

theorem reads_attributeFilter : Reads attributeFilter := by
  intro s
  unfold attributeFilter
  split
  · next e he => exact (reads_attributePath.error he).trans (ws_suffix s)
  · next r _ h =>
    have hr := (reads_attributePath.ok h).trans (ws_suffix s)
    split
    · next r2 _ h2 => exact (reads_comparison.ok h2).trans hr
    · exact hr
    · next e _ he => exact (reads_comparison.error he).trans hr

theorem reads_scopedValue : Reads scopedValue := by
  refine reads_orElse (fun s => ?_) (reads_value.map fun _ _ => List.suffix_refl _)
  split
  · next e he => exact (reads_tag _).error he
  · next r _ h =>
    have hr := (reads_tag _).ok h
    split
    · next e he => exact ((reads_cut reads_path).error he).trans hr
    · next r2 _ h2 =>
      have hr2 := ((reads_cut reads_path).ok h2).trans hr
      split
      · next e he => simpa using ((reads_expect _).error he).trans hr2
      · next r3 _ h3 => exact ((reads_expect _).ok h3).trans hr2

theorem reads_scopedAssertion : Reads scopedAssertion := by
  intro s
  unfold scopedAssertion
  split
  · next e he => exact reads_scopedValue.error he
  · next r _ h =>
    have hr := reads_scopedValue.ok h
    split
    · next e he => exact ((reads_comparator.error he).trans (ws_suffix r)).trans hr
    · next r2 _ h2 =>
      have hr2 := ((reads_comparator.ok h2).trans (ws_suffix r)).trans hr
      have hvals := reads_sepBy1 reads_comma reads_scopedValue
      split
      · next e he => exact ((hvals.error he).trans (ws_suffix r2)).trans hr2
      · next r3 _ h3 =>
        have hr3 := ((hvals.ok h3).trans (ws_suffix r2)).trans hr2
        split
        · next e he => exact (reads_caseFlag.error he).trans hr3
        · next r4 _ h4 => exact (reads_caseFlag.ok h4).trans hr3

theorem reads_andSign : Reads andSign := fun s =>
  ((reads_tag "&&").map (fun r _ => ws_suffix r) (ws s)).trans (ws_suffix s)

theorem reads_scopedAttribute : Reads scopedAttribute := by
  intro s
  unfold scopedAttribute
  split
  · next e he => exact ((reads_char _).error he).trans (ws_suffix s)
  · next r _ h =>
    have hr := ((reads_char _).ok h).trans (ws_suffix s)
    have hall := reads_cut (reads_sepBy1 reads_andSign fun s =>
      (reads_scopedAssertion (ws s)).trans (ws_suffix s))
    -- the scope is the path when there is one and empty otherwise; the rest
    -- of the step reads on from where it stopped
    split
    · next r1 _ h1 =>
      have hr1 := (reads_attributePath.ok h1).trans hr
      dsimp only
      split
      · next e he => simpa using (((reads_expect _).error he).trans (ws_suffix r1)).trans hr1
      · next r2 _ h2 =>
        have hr2 := (((reads_expect _).ok h2).trans (ws_suffix r1)).trans hr1
        split
        · next e he => exact (hall.error he).trans hr2
        · next r3 _ h3 => exact (hall.ok h3).trans hr2
    · dsimp only
      split
      · next e he => simpa using (((reads_expect _).error he).trans (ws_suffix r)).trans hr
      · next r2 _ h2 =>
        have hr2 := (((reads_expect _).ok h2).trans (ws_suffix r)).trans hr
        split
        · next e he => exact (hall.error he).trans hr2
        · next r3 _ h3 => exact (hall.ok h3).trans hr2
    · next e _ he => simpa using (reads_attributePath.error he).trans hr

theorem reads_bracket : Reads bracket := by
  intro s
  unfold bracket
  split
  · next e he => exact (reads_char _).error he
  · next r _ h =>
    have hr := (reads_char _).ok h
    have hin := reads_orElse reads_scopedAttribute reads_attributeFilter
    split
    · next e he => simpa using (hin.error he).trans hr
    · next r2 _ h2 =>
      have hr2 := (hin.ok h2).trans hr
      split
      · next e he => simpa using (((reads_expect _).error he).trans (ws_suffix r2)).trans hr2
      · next r3 _ h3 => exact (((reads_expect _).ok h3).trans (ws_suffix r2)).trans hr2

/-! ## §4. Types and neighbors -/

theorem reads_shapeType : Reads shapeType := by
  intro s
  unfold shapeType
  have htok := reads_orElse (reads_tag "*") reads_identifier
  split
  · next e he => exact htok.error he
  · next r _ h =>
    split
    · exact htok.ok h
    · simp [stopAt]

theorem reads_relationshipLabel : Reads relationshipLabel := by
  intro s
  unfold relationshipLabel
  split
  · next e he => exact reads_identifier.error he
  · next r _ h =>
    split
    · exact reads_identifier.ok h
    · simp [stopAt]

theorem reads_labels : Reads labels := fun s =>
  ((reads_sepBy1 reads_comma reads_relationshipLabel).map (fun r _ => ws_suffix r) (ws s)).trans
    (ws_suffix s)

theorem reads_labelledWalk (opening closing : String) (dir : Direction) :
    Reads (labelledWalk opening closing dir) := by
  intro s
  unfold labelledWalk
  split
  · next e he => exact (reads_tag _).error he
  · next r _ h =>
    have hr := (reads_tag _).ok h
    split
    · next e he => exact ((reads_cut reads_labels).error he).trans hr
    · next r2 _ h2 =>
      have hr2 := ((reads_cut reads_labels).ok h2).trans hr
      split
      · next e he => exact ((reads_cut (reads_tag _)).error he).trans hr2
      · next r3 _ h3 => exact ((reads_cut (reads_tag _)).ok h3).trans hr2

theorem reads_neighbor : Reads neighbor := by
  have hkeep {α β : Type} (f : β → α) : ∀ (r : List Char) (x : β), ((r, f x) : List Char × α).1 <:+ r :=
    fun r _ => List.suffix_refl r
  refine reads_orElse (reads_orElse (reads_orElse (reads_orElse ?_ (reads_labelledWalk _ _ _))
    (reads_labelledWalk _ _ _)) ?_) ?_
  · exact (reads_tag _).map (hkeep fun _ => Step.recursive)
  · exact (reads_char _).map (hkeep fun _ => Step.neighbor .forward [])
  · exact (reads_char _).map (hkeep fun _ => Step.neighbor .reverse [])

/-! ## §5. Functions and steps, at every depth -/

theorem reads_moreStepsWith {step : List Char → Outcome Step} (hstep : Reads step) :
    ∀ fuel r acc, (moreStepsWith step fuel r acc).rest <:+ r
  | 0, r, acc => by simp [moreStepsWith]
  | fuel + 1, r, acc => by
    unfold moreStepsWith
    split
    · simp
    · next e _ he => exact (hstep.error he).trans (ws_suffix r)
    · next r2 _ h2 =>
      have hr2 := (hstep.ok h2).trans (ws_suffix r)
      split
      · simp [unexpected]
      · exact (reads_moreStepsWith hstep fuel r2 _).trans hr2

theorem reads_moreArgumentsWith {selector : List Char → Outcome (List Step)} (hsel : Reads selector) :
    ∀ fuel r acc, (moreArgumentsWith selector fuel r acc).rest <:+ r
  | 0, r, acc => by simp [moreArgumentsWith]
  | fuel + 1, r, acc => by
    unfold moreArgumentsWith
    split
    · simp
    · next e _ he => exact reads_comma.error he
    · next r1 _ h1 =>
      have hr1 := reads_comma.ok h1
      split
      · simp
      · next e _ he => exact (hsel.error he).trans hr1
      · next r2 _ h2 => exact ((reads_moreArgumentsWith hsel fuel r2 _).trans (hsel.ok h2)).trans hr1

theorem reads_argumentsWith {selector : List Char → Outcome (List Step)} (hsel : Reads selector) :
    Reads (argumentsWith selector) := by
  intro s
  unfold argumentsWith
  split
  · next e he => exact hsel.error he
  · next r _ h => exact (reads_moreArgumentsWith hsel _ r _).trans (hsel.ok h)

/-- A function that is not known, or given the wrong number of selectors, fails
where its step starts. -/
theorem functionStep_error_rest {at_ : List Char} {name : String} {args : List (List Step)}
    {e : Miss} (h : functionStep at_ name args = .error e) : e.rest = at_ := by
  unfold functionStep at h
  split_ifs at h
  · split at h
    · cases h
    · cases h; rfl
  · split at h
    · cases h
    · cases h
    · cases h; rfl
  · cases h; rfl

theorem reads_functionWith {selector : List Char → Outcome (List Step)} (hsel : Reads selector) :
    Reads (functionWith selector) := by
  intro s
  unfold functionWith
  split
  · next e he => exact (reads_char _).error he
  · next r _ h =>
    have hr := (reads_char _).ok h
    split
    · next e he => exact ((reads_cut reads_identifier).error he).trans hr
    · next r1 _ h1 =>
      have hr1 := ((reads_cut reads_identifier).ok h1).trans hr
      split
      · next e he => exact ((reads_expect _).error he).trans hr1
      · next r2 _ h2 =>
        have hr2 := (((reads_expect _).ok h2).trans hr1)
        split
        · next e he => simpa using (((reads_argumentsWith hsel).error he).trans (ws_suffix r2)).trans hr2
        · next r3 _ h3 =>
          have hr3 := (((reads_argumentsWith hsel).ok h3).trans (ws_suffix r2)).trans hr2
          split
          · next e he => exact (((reads_expect _).error he).trans (ws_suffix r3)).trans hr3
          · next r4 _ h4 =>
            have hr4 := (((reads_expect _).ok h4).trans (ws_suffix r3)).trans hr3
            -- a function that is not known fails where the step starts
            split
            · exact hr4
            · next e he => simp [functionStep_error_rest he]

theorem reads_stepWith {selector : List Char → Outcome (List Step)} (hsel : Reads selector) :
    Reads (stepWith selector) :=
  reads_orElse (reads_orElse (reads_orElse reads_neighbor (reads_functionWith hsel)) reads_bracket)
    reads_shapeType

theorem reads_steps : ∀ depth, Reads (steps depth)
  | 0 => fun s => by
    show Outcome.rest (stopAt s "Selector nesting is too deep") <:+ s
    simp [stopAt]
  | depth + 1 => fun s => by
    have hstep := reads_stepWith (reads_steps depth)
    unfold steps
    split
    · next e he => exact (hstep.error he).trans (ws_suffix s)
    · next r _ h => exact (reads_moreStepsWith hstep _ r _).trans ((hstep.ok h).trans (ws_suffix s))

/-! ## §6. Lists read are never empty -/

theorem sepBy1_more_ne_nil {α β : Type} {sep : List Char → Outcome β} {item : List Char → Outcome α} :
    ∀ {fuel r acc r' xs}, sepBy1.more sep item fuel r acc = .ok (r', xs) → acc ≠ [] → xs ≠ []
  | 0, r, acc, r', xs, h, hacc => by
    cases h
    simpa using hacc
  | fuel + 1, r, acc, r', xs, h, hacc => by
    unfold sepBy1.more at h
    split at h
    · cases h
      simpa using hacc
    · cases h
    · split at h
      · simp [unexpected] at h
      · split at h
        · cases h
          simpa using hacc
        · cases h
        · exact sepBy1_more_ne_nil h (List.cons_ne_nil _ _)

theorem sepBy1_ne_nil {α β : Type} {sep : List Char → Outcome β} {item : List Char → Outcome α}
    {s r : List Char} {xs : List α} (h : sepBy1 sep item s = .ok (r, xs)) : xs ≠ [] := by
  unfold sepBy1 at h
  split at h
  · cases h
  · exact sepBy1_more_ne_nil h (List.cons_ne_nil _ _)

theorem path_ne_nil {s r : List Char} {p : List String} (h : path s = .ok (r, p)) : p ≠ [] :=
  sepBy1_ne_nil h

theorem moreArgumentsWith_ne_nil {selector : List Char → Outcome (List Step)} :
    ∀ {fuel r acc r' args}, moreArgumentsWith selector fuel r acc = .ok (r', args) → acc ≠ [] →
      args ≠ []
  | 0, r, acc, r', args, h, hacc => by
    cases h
    simpa using hacc
  | fuel + 1, r, acc, r', args, h, hacc => by
    unfold moreArgumentsWith at h
    split at h
    · cases h
      simpa using hacc
    · cases h
    · split at h
      · cases h
        simpa using hacc
      · cases h
      · exact moreArgumentsWith_ne_nil h (List.cons_ne_nil _ _)

theorem argumentsWith_ne_nil {selector : List Char → Outcome (List Step)} {s r : List Char}
    {args : List (List Step)} (h : argumentsWith selector s = .ok (r, args)) : args ≠ [] := by
  unfold argumentsWith at h
  split at h
  · cases h
  · exact moreArgumentsWith_ne_nil h (List.cons_ne_nil _ _)

/-! ## §7. Byte offsets -/

theorem foldl_utf8Size (k : Nat) (l : List Char) :
    l.foldl (fun n c => n + c.utf8Size) k = k + byteSize l := by
  induction l generalizing k with
  | nil => rfl
  | cons c l ih =>
    show _ = k + List.foldl (fun n c => n + c.utf8Size) 0 (c :: l)
    rw [List.foldl_cons, List.foldl_cons, ih, ih]
    omega

@[simp] theorem byteSize_nil : byteSize [] = 0 := rfl

@[simp] theorem byteSize_cons (c : Char) (l : List Char) :
    byteSize (c :: l) = c.utf8Size + byteSize l := by
  rw [byteSize, List.foldl_cons, foldl_utf8Size, Nat.zero_add]

theorem byteSize_append (a b : List Char) : byteSize (a ++ b) = byteSize a + byteSize b := by
  induction a with
  | nil => simp
  | cons c a ih => simp [ih, Nat.add_assoc]

theorem utf8ByteSize_ofList (l : List Char) : (String.ofList l).utf8ByteSize = byteSize l := by
  induction l with
  | nil => rfl
  | cons c l ih => rw [String.ofList_cons, String.utf8ByteSize_append, String.utf8ByteSize_singleton, ih, byteSize_cons]

theorem byteSize_toList (e : String) : byteSize e.toList = e.utf8ByteSize := by
  rw [← utf8ByteSize_ofList, String.ofList_toList]

theorem byteSize_le_of_append {e : String} {pre rest : List Char} (h : e.toList = pre ++ rest) :
    byteSize pre ≤ e.utf8ByteSize := by
  rw [← byteSize_toList, h, byteSize_append]
  omega

/-- The offset of a rest of the expression: the bytes of what comes before it. -/
theorem position_of_suffix {e : String} {rest : List Char} (h : rest <:+ e.toList) :
    ∃ pre, e.toList = pre ++ rest ∧ e.utf8ByteSize - byteSize rest = byteSize pre := by
  obtain ⟨pre, hpre⟩ := h
  refine ⟨pre, hpre.symm, ?_⟩
  rw [← byteSize_toList, ← hpre, byteSize_append]
  omega

/-! ## §8. Failures of a whole expression -/

theorem parse_blank {e : String} (h : (Text.trimBlank e).isEmpty = true) :
    parse e = .error ⟨e, 0, "Selector expression is empty"⟩ := by
  unfold parse
  dsimp only
  rw [if_pos h]

/-- A failure names the expression as given, and its position is the byte size
of a part the expression starts with: the failing reader's rest, or the text
left after the steps. -/
theorem parse_error_position {e : String} {err : SyntaxError} (h : parse e = .error err) :
    err.expression = e ∧ ∃ pre rest, e.toList = pre ++ rest ∧ err.position = byteSize pre := by
  unfold parse at h
  split_ifs at h
  · cases h
    exact ⟨rfl, [], e.toList, rfl, rfl⟩
  · dsimp only at h
    split at h
    · next r st hst =>
      split at h
      · cases h
      · next c rest hws =>
        cases h
        have hsuf : c :: rest <:+ e.toList := hws ▸ (ws_suffix r).trans ((reads_steps _).ok hst)
        obtain ⟨pre, hpre, hpos⟩ := position_of_suffix hsuf
        exact ⟨rfl, pre, _, hpre, hpos⟩
    · next m hm =>
      cases h
      obtain ⟨pre, hpre, hpos⟩ := position_of_suffix ((reads_steps _).error hm)
      exact ⟨rfl, pre, _, hpre, hpos⟩

/-- Reading a selector never meets an empty attribute path or a function with no
selectors, and it fails only at a byte offset of the expression as given: 0 for
a blank one, otherwise the size of a part the expression starts with, so never
past its end. -/
theorem parse_positions_faithful :
    (∀ s r p, path s = .ok (r, p) → p ≠ []) ∧
    (∀ (selector : List Char → Outcome (List Step)) s r args,
      argumentsWith selector s = .ok (r, args) → args ≠ []) ∧
    (∀ e, (Text.trimBlank e).isEmpty = true → parse e = .error ⟨e, 0, "Selector expression is empty"⟩) ∧
    ∀ e err, parse e = .error err → err.expression = e ∧
      (∃ pre rest, e.toList = pre ++ rest ∧ err.position = byteSize pre) ∧
      err.position ≤ e.utf8ByteSize := by
  refine ⟨fun _ _ _ => path_ne_nil, fun _ _ _ _ => argumentsWith_ne_nil, fun _ => parse_blank, ?_⟩
  intro e err h
  obtain ⟨hexpr, pre, rest, hsplit, hpos⟩ := parse_error_position h
  exact ⟨hexpr, ⟨pre, rest, hsplit, hpos⟩, hpos ▸ byteSize_le_of_append hsplit⟩

/-- A function left open fails at the very end of the expression. -/
theorem parse_unclosed_function_at_end :
    parse "  :is(" = .error ⟨"  :is(", 6, "Unexpected input (Tag)"⟩ ∧
      6 ≤ "  :is(".utf8ByteSize ∧ ∃ pre rest, "  :is(".toList = pre ++ rest ∧ 6 = byteSize pre :=
  have h : parse "  :is(" = .error ⟨"  :is(", 6, "Unexpected input (Tag)"⟩ := by rfl
  have hpos := (parse_positions_faithful.2.2.2 _ _ h).2
  ⟨h, hpos.2, hpos.1⟩

end ShapeKit.Selector
