import Mathlib
import ShapeKit.Validation.Event

/-!
# Reading an ID back from its text

`ShapeId.text` writes `ns#Name` or `ns#Name$member`, and `ShapeId.parse` reads
that text back to the same ID whenever the parts are parts `parse` gives: a
namespace with no `#` and no leading blank, and identifiers for the name and
the member (`ShapeId.Valid`). Every ID that `parse`, `withMember` and
`ofRelative` give is valid, so every ID a loaded model holds can be written
out and read in again. A namespace is made of identifier characters and dots
only, so the parts `ofParts` and `withMember` accept are valid too.

Conversely `parse` takes nothing but blanks away: the text of what it reads
is the trimmed input, because it cuts at the first `#` and the first `$` and
keeps both separators in the parts it checks.

Main statements:
  * `ShapeId.parse_text` — a valid ID reads back from its text.
  * `ShapeId.valid_of_parse` — `parse` gives valid IDs.
  * `ShapeId.text_of_parse` — the text of a parsed ID is the trimmed input.
  * `ShapeId.parse_roundTrip` — IDs made from valid parts read back from their
    text and from their serialized form, and `parse` reads exactly the
    trimmed text.
-/

namespace ShapeKit

/-! ## §1. Identifier characters -/

theorem isIdentChar_of_isIdentStart {c : Char} (h : isIdentStart c = true) :
    isIdentChar c = true := by
  simp only [isIdentStart, Bool.or_eq_true] at h
  simp only [isIdentChar, Char.isAlphanum, Bool.or_eq_true]
  rcases h with h | h
  · exact .inl (.inl h)
  · exact .inr h

/-- An identifier character is an ASCII letter, digit or `_`: no blank. -/
theorem isIdentChar_not_blank {c : Char} (h : isIdentChar c = true) : Text.isBlank c = false := by
  simp only [isIdentChar, Char.isAlphanum, Char.isAlpha, Char.isUpper, Char.isLower, Char.isDigit,
    Bool.or_eq_true, Bool.and_eq_true, decide_eq_true_eq, ge_iff_le, UInt32.le_iff_toNat_le] at h
  rcases h with h | rfl
  · simp only [Text.isBlank]
    simp at h ⊢
    omega
  · decide

theorem isIdentChar_ne_hash {c : Char} (h : isIdentChar c = true) : c ≠ '#' := by
  rintro rfl
  revert h
  decide

theorem isIdentChar_ne_dollar {c : Char} (h : isIdentChar c = true) : c ≠ '$' := by
  rintro rfl
  revert h
  decide

/-- An identifier has at least one character, and each is an identifier character. -/
theorem isIdentifier_chars {s : String} (h : isIdentifier s = true) :
    s.toList ≠ [] ∧ ∀ c ∈ s.toList, isIdentChar c = true := by
  unfold isIdentifier at h
  cases hs : s.toList with
  | nil =>
      rw [hs] at h
      cases h
  | cons c cs =>
      rw [hs] at h
      simp only [isIdentifierChars, Bool.and_eq_true, List.all_eq_true] at h
      refine ⟨List.cons_ne_nil _ _, fun x hx => ?_⟩
      rcases List.mem_cons.mp hx with rfl | hx
      · exact isIdentChar_of_isIdentStart h.1
      · exact h.2 x hx

/-- The last character of an identifier is no blank. -/
theorem isIdentifier_last {s : String} (h : isIdentifier s = true) :
    ∀ c ∈ s.toList.getLast?, Text.isBlank c = false := by
  intro c hc
  exact isIdentChar_not_blank ((isIdentifier_chars h).2 c (List.mem_of_getLast? hc))

/-- A character of a list that is no separator lies in one of its pieces. -/
theorem exists_mem_splitOnP {p : Char → Bool} {c : Char} {cs : List Char} (hc : c ∈ cs)
    (hp : p c = false) : ∃ piece ∈ cs.splitOnP p, c ∈ piece := by
  induction cs with
  | nil => cases hc
  | cons x xs ih =>
    rw [List.splitOnP_cons_eq_if_modifyHead]
    by_cases hx : p x = true
    · -- a separator starts a new piece; `c` is not one, so it lies further on
      have hcx : c ∈ xs := by
        rcases List.mem_cons.mp hc with rfl | h
        · rw [hp] at hx
          cases hx
        · exact h
      obtain ⟨piece, hpiece, hmem⟩ := ih hcx
      exact ⟨piece, by simp [hx, hpiece], hmem⟩
    · -- any other character joins the first piece of the rest
      obtain ⟨q, qs, hqs⟩ := List.exists_cons_of_ne_nil (List.splitOnP_ne_nil p xs)
      simp only [hx, if_false, hqs, List.modifyHead_cons, Bool.false_eq_true]
      rcases List.mem_cons.mp hc with rfl | h
      · exact ⟨c :: q, List.mem_cons_self, List.mem_cons_self⟩
      · obtain ⟨piece, hpiece, hmem⟩ := ih h
        rw [hqs] at hpiece
        rcases List.mem_cons.mp hpiece with rfl | hpiece
        · exact ⟨x :: piece, List.mem_cons_self, List.mem_cons_of_mem _ hmem⟩
        · exact ⟨piece, List.mem_cons_of_mem _ hpiece, hmem⟩

/-- Every character of a namespace is an identifier character or a `.`. -/
theorem isNamespace_chars {s : String} (h : isNamespace s = true) :
    ∀ c ∈ s.toList, isIdentChar c = true ∨ c = '.' := by
  intro c hc
  by_cases hdot : c = '.'
  · exact .inr hdot
  left
  simp only [isNamespace, Bool.and_eq_true, List.all_eq_true, String.splitToList_of_valid,
    List.mem_map, forall_exists_index, and_imp, forall_apply_eq_imp_iff₂] at h
  -- `c` lies in one of the dot-separated pieces, each an identifier
  obtain ⟨piece, hpiece, hmem⟩ := exists_mem_splitOnP (p := (· == '.')) hc (by simpa using hdot)
  exact (isIdentifier_chars (h.2 piece hpiece)).2 c (by simpa using hmem)

theorem isNamespace_hash {s : String} (h : isNamespace s = true) : '#' ∉ s.toList := by
  intro hmem
  rcases isNamespace_chars h '#' hmem with h' | h'
  · exact isIdentChar_ne_hash h' rfl
  · cases h'

/-- A namespace starts with no blank: its characters are identifier characters and dots. -/
theorem isNamespace_start {s : String} (h : isNamespace s = true) :
    ∀ c ∈ s.toList.head?, Text.isBlank c = false := by
  intro c hc
  rcases isNamespace_chars h c (List.mem_of_mem_head? hc) with h' | rfl
  · exact isIdentChar_not_blank h'
  · decide

/-! ## §2. Splitting at the first separator -/

namespace ShapeId

theorem splitFirst_append {sep : Char} {a : List Char} (ha : sep ∉ a) (b : List Char) :
    splitFirst sep (a ++ sep :: b) = some (a, b) := by
  induction a with
  | nil => simp [splitFirst]
  | cons c a ih =>
      have hc : c ≠ sep := fun h => ha (h ▸ List.mem_cons_self)
      simp [splitFirst, hc, ih (fun h => ha (List.mem_cons_of_mem c h))]

theorem splitFirst_of_not_mem {sep : Char} {a : List Char} (ha : sep ∉ a) :
    splitFirst sep a = none := by
  induction a with
  | nil => rfl
  | cons c a ih =>
      have hc : c ≠ sep := fun h => ha (h ▸ List.mem_cons_self)
      simp [splitFirst, hc, ih (fun h => ha (List.mem_cons_of_mem c h))]

/-- A split is at the first separator. -/
theorem eq_of_splitFirst {sep : Char} {cs a b : List Char} (h : splitFirst sep cs = some (a, b)) :
    cs = a ++ sep :: b ∧ sep ∉ a := by
  induction cs generalizing a with
  | nil => cases h
  | cons c cs ih =>
      unfold splitFirst at h
      split at h
      · next hc =>
          obtain ⟨rfl, rfl⟩ := Prod.mk.inj (Option.some.inj h)
          exact ⟨by rw [hc]; rfl, List.not_mem_nil⟩
      · next hc =>
          obtain ⟨⟨a', b'⟩, hsplit, hab⟩ := Option.map_eq_some_iff.mp h
          obtain ⟨rfl, rfl⟩ := Prod.mk.inj hab
          obtain ⟨rfl, ha'⟩ := ih hsplit
          refine ⟨rfl, fun hmem => ?_⟩
          rcases List.mem_cons.mp hmem with h' | h'
          · exact hc h'.symm
          · exact ha' h'

end ShapeId

/-! ## §3. Trimming blanks -/

namespace Text

theorem dropWhile_blank_of_head {cs : List Char} (h : ∀ c ∈ cs.head?, isBlank c = false) :
    cs.dropWhile isBlank = cs := by
  cases cs with
  | nil => rfl
  | cons c cs => simp [List.dropWhile, h c rfl]

/-- A text that starts and ends with no blank is its own trimming. -/
theorem trimBlankChars_eq_self {cs : List Char} (hh : ∀ c ∈ cs.head?, isBlank c = false)
    (hl : ∀ c ∈ cs.getLast?, isBlank c = false) : trimBlankChars cs = cs := by
  have hrev : ∀ c ∈ cs.reverse.head?, isBlank c = false := by
    rw [List.head?_reverse]
    exact hl
  rw [trimBlankChars, dropWhile_blank_of_head hh, dropWhile_blank_of_head hrev, List.reverse_reverse]

/-- A trimmed text starts with no blank. -/
theorem trimBlankChars_head (cs : List Char) :
    ∀ c ∈ (trimBlankChars cs).head?, isBlank c = false := by
  intro c hc
  rw [trimBlankChars, List.head?_reverse] at hc
  -- the kept part is a suffix of the reversed text, so its last character is the
  -- first character left after dropping the leading blanks
  obtain ⟨t, ht⟩ := List.dropWhile_suffix isBlank (l := (cs.dropWhile isBlank).reverse)
  have hlast : ((cs.dropWhile isBlank).reverse).getLast? = some c := by
    rw [← ht, List.getLast?_append, Option.mem_def.mp hc, Option.some_or]
  rw [List.getLast?_reverse] at hlast
  have hfirst := List.head?_dropWhile_not isBlank cs
  rw [hlast] at hfirst
  exact hfirst

end Text

/-! ## §4. Valid IDs read back -/

namespace ShapeId

/-- An ID whose parts are parts `parse` gives: a namespace with no `#` and no
leading blank, and identifiers for the name and the member. -/
structure Valid (id : ShapeId) : Prop where
  ns : isNamespace id.ns = true
  ns_hash : '#' ∉ id.ns.toList
  ns_start : ∀ c ∈ id.ns.toList.head?, Text.isBlank c = false
  name : isIdentifier id.name = true
  member : ∀ m ∈ id.member, isIdentifier m = true

theorem text_toList (id : ShapeId) :
    id.text.toList = id.ns.toList ++ '#' :: (id.name.toList ++
      match id.member with
      | some m => '$' :: m.toList
      | none => []) := by
  rcases id with ⟨ns, name, _ | m⟩ <;> simp [text]

/-- The text of every ID holds a `#`. -/
theorem hash_mem_text (id : ShapeId) : '#' ∈ id.text.toList := by
  rw [text_toList]
  exact List.mem_append_right _ List.mem_cons_self

theorem ns_ne_nil {id : ShapeId} (h : id.Valid) : id.ns.toList ≠ [] := by
  intro hnil
  have hns := h.ns
  rw [String.toList_eq_nil_iff.mp hnil] at hns
  simp [isNamespace] at hns

/-- The text of a valid ID has no blank at either end, so trimming keeps it. -/
theorem trimBlank_text {id : ShapeId} (h : id.Valid) : Text.trimBlank id.text = id.text := by
  obtain ⟨hnameNe, -⟩ := isIdentifier_chars h.name
  have hhead : ∀ c ∈ id.text.toList.head?, Text.isBlank c = false := by
    rw [text_toList, List.head?_append_of_ne_nil _ (ns_ne_nil h)]
    exact h.ns_start
  -- the text ends with the member if there is one, else with the name
  have hlast : ∀ c ∈ id.text.toList.getLast?, Text.isBlank c = false := by
    rcases id with ⟨ns, name, _ | m⟩
    · have hl : (ShapeId.text ⟨ns, name, none⟩).toList.getLast? = name.toList.getLast? := by
        rw [show (ShapeId.text ⟨ns, name, none⟩).toList = (ns.toList ++ ['#']) ++ name.toList by
          simp [text]]
        exact List.getLast?_append_of_ne_nil _ hnameNe
      rw [hl]
      exact isIdentifier_last h.name
    · have hmid := h.member m rfl
      have hl : (ShapeId.text ⟨ns, name, some m⟩).toList.getLast? = m.toList.getLast? := by
        rw [show (ShapeId.text ⟨ns, name, some m⟩).toList =
            (ns.toList ++ '#' :: name.toList ++ ['$']) ++ m.toList by simp [text]]
        exact List.getLast?_append_of_ne_nil _ (isIdentifier_chars hmid).1
      rw [hl]
      exact isIdentifier_last hmid
  rw [Text.trimBlank, Text.trimBlankChars_eq_self hhead hlast, String.ofList_toList]

/-- **A valid ID reads back from its text.** -/
theorem parse_text {id : ShapeId} (h : id.Valid) : parse id.text = .ok id := by
  have hdollar : '$' ∉ id.name.toList := fun hm =>
    isIdentChar_ne_dollar ((isIdentifier_chars h.name).2 _ hm) rfl
  unfold parse
  simp only [trimBlank_text h]
  rw [text_toList, splitFirst_append h.ns_hash]
  rcases id with ⟨ns, name, _ | m⟩
  · rw [List.append_nil] at *
    simp only [splitFirst_of_not_mem hdollar, String.ofList_toList, h.ns, h.name, Bool.not_true,
      Bool.false_eq_true, if_false]
  · have hm := h.member m rfl
    simp only [splitFirst_append hdollar, String.ofList_toList, h.ns, h.name, hm, Bool.not_true,
      Bool.false_eq_true, if_false, if_true]

/-- What `parse` reads: the trimmed text cut at its first `#` into a
namespace and the rest, and the rest cut at its first `$`, if any, into a
name and a member, each part checked. -/
theorem parse_eq_ok {text : String} {id : ShapeId} (h : parse text = .ok id) :
    ∃ rest, splitFirst '#' (Text.trimBlank text).toList = some (id.ns.toList, rest) ∧
      isNamespace id.ns = true ∧ isIdentifier id.name = true ∧
      ((splitFirst '$' rest = none ∧ rest = id.name.toList ∧ id.member = none) ∨
        ∃ m, splitFirst '$' rest = some (id.name.toList, m.toList) ∧ id.member = some m ∧
          isIdentifier m = true) := by
  unfold parse at h
  simp only at h
  cases hsplit : splitFirst '#' (Text.trimBlank text).toList with
  | none =>
    rw [hsplit] at h
    cases h
  | some parts =>
    obtain ⟨nsChars, rest⟩ := parts
    rw [hsplit] at h
    simp only at h
    by_cases hns : isNamespace (String.ofList nsChars) = true
    swap
    · simp [hns] at h
    rw [if_neg (by simp [hns])] at h
    cases hd : splitFirst '$' rest with
    | none =>
      simp only [hd] at h
      by_cases hname : isIdentifier (String.ofList rest) = true
      swap
      · simp [hname] at h
      rw [if_neg (by simp [hname])] at h
      cases h
      exact ⟨rest, by simp, hns, hname, .inl ⟨hd, by simp, rfl⟩⟩
    | some parts' =>
      obtain ⟨a, b⟩ := parts'
      simp only [hd] at h
      by_cases hname : isIdentifier (String.ofList a) = true
      swap
      · simp [hname] at h
      rw [if_neg (by simp [hname])] at h
      by_cases hm : isIdentifier (String.ofList b) = true
      swap
      · simp [hm] at h
      rw [if_pos hm] at h
      cases h
      refine ⟨rest, by simp, hns, hname, .inr ⟨String.ofList b, ?_, rfl, hm⟩⟩
      simp [hd]

/-- **`parse` gives valid IDs.** -/
theorem valid_of_parse {text : String} {id : ShapeId} (h : parse text = .ok id) : id.Valid := by
  obtain ⟨rest, hsplit, hns, hname, hmember⟩ := parse_eq_ok h
  obtain ⟨htext, hhash⟩ := eq_of_splitFirst hsplit
  -- the namespace starts the trimmed text, which starts with no blank
  have hstart : ∀ c ∈ id.ns.toList.head?, Text.isBlank c = false := by
    have hnsNe : id.ns.toList ≠ [] := by
      intro hnil
      rw [String.toList_eq_nil_iff.mp hnil] at hns
      simp [isNamespace] at hns
    intro c hc
    apply Text.trimBlankChars_head text.toList c
    rw [← String.toList_ofList (l := Text.trimBlankChars text.toList), ← Text.trimBlank, htext,
      List.head?_append_of_ne_nil _ hnsNe]
    exact hc
  refine ⟨hns, hhash, hstart, hname, fun m hm => ?_⟩
  rcases hmember with ⟨-, -, hnone⟩ | ⟨m', -, hsome, hm'⟩
  · rw [hnone] at hm
    cases hm
  · rw [hsome] at hm
    cases hm
    exact hm'

/-- **`parse` takes only blanks away**: the text of the ID it reads is the
trimmed input. -/
theorem text_of_parse {text : String} {id : ShapeId} (h : parse text = .ok id) :
    id.text = Text.trimBlank text := by
  obtain ⟨rest, hsplit, -, -, hmember⟩ := parse_eq_ok h
  apply String.toList_injective
  rw [(eq_of_splitFirst hsplit).1, text_toList]
  -- both separators come back where `parse` cut
  rcases hmember with ⟨-, rfl, hnone⟩ | ⟨m, hd, hsome, -⟩
  · rw [hnone, List.append_nil]
  · rw [hsome, (eq_of_splitFirst hd).1]

theorem valid_withMember {id id' : ShapeId} {m : String} (h : id.Valid)
    (hw : id.withMember m = .ok id') : id'.Valid := by
  unfold withMember at hw
  split at hw
  · next hm =>
      cases hw
      exact ⟨h.ns, h.ns_hash, h.ns_start, h.name, fun m' hm' => by cases hm'; exact hm⟩
  · cases hw

theorem valid_ofRelative {ns relative : String} {id : ShapeId} (h : ofRelative ns relative = .ok id) :
    id.Valid := by
  unfold ofRelative at h
  split at h
  · cases h
  · exact valid_of_parse h

theorem Valid.withoutMember {id : ShapeId} (h : id.Valid) : id.withoutMember.Valid :=
  ⟨h.ns, h.ns_hash, h.ns_start, h.name, fun _ hm => by cases hm⟩

/-! ## §5. IDs made from valid parts -/

/-- Parts that `ofParts` and `withMember` accept make a valid ID. -/
theorem Valid.of_parts {ns name : String} {member : Option String} (hns : isNamespace ns = true)
    (hname : isIdentifier name = true) (hmember : ∀ m ∈ member, isIdentifier m = true) :
    Valid ⟨ns, name, member⟩ :=
  ⟨hns, isNamespace_hash hns, isNamespace_start hns, hname, hmember⟩

/-- `ofParts`, then `withMember` when there is a member name, accepts valid parts. -/
theorem ofParts_withMember {ns name : String} {member : Option String} (hns : isNamespace ns = true)
    (hname : isIdentifier name = true) (hmember : ∀ m ∈ member, isIdentifier m = true) :
    (ofParts ns name >>= fun id => member.elim (pure id) id.withMember) = .ok ⟨ns, name, member⟩ := by
  cases member with
  | none => simp [ofParts, hns, hname, bind, Except.bind, pure, Except.pure]
  | some m => simp [ofParts, withMember, hns, hname, hmember m rfl, bind, Except.bind]

/-- The serialized form of a valid ID, the JSON string of its text, reads
back to it. -/
theorem decodeShapeId_text {id : ShapeId} (h : id.Valid) : decodeShapeId (.str id.text) = .ok (some id) := by
  simp [decodeShapeId, parse_text h]

/-- **Shape ID text round trip.** An ID made by `ofParts` (and `withMember`)
from a valid namespace, name and member reads back from its text and from its
serialized form; and whatever `parse` reads has the trimmed input as its text. -/
theorem parse_roundTrip :
    (∀ (ns name : String) (member : Option String), isNamespace ns = true →
      isIdentifier name = true → (∀ m ∈ member, isIdentifier m = true) →
      ∃ id, (ofParts ns name >>= fun id => member.elim (pure id) id.withMember) = .ok id ∧
        parse id.text = .ok id ∧ decodeShapeId (.str id.text) = .ok (some id)) ∧
    ∀ (text : String) (id : ShapeId), parse text = .ok id → id.text = Text.trimBlank text := by
  refine ⟨fun ns name member hns hname hmember => ?_, fun _ _ => text_of_parse⟩
  have hvalid := Valid.of_parts hns hname hmember
  exact ⟨_, ofParts_withMember hns hname hmember, parse_text hvalid, decodeShapeId_text hvalid⟩

theorem parse_roundTrip_member :
    (∃ id, (ofParts "smithy.example" "Foo" >>= fun id => (some "bar").elim (pure id) id.withMember) =
        .ok id ∧ parse id.text = .ok id ∧ decodeShapeId (.str id.text) = .ok (some id)) ∧
    (⟨"ns", "Foo", some "bar"⟩ : ShapeId).text = Text.trimBlank " ns#Foo$bar\n" :=
  ⟨parse_roundTrip.1 _ _ _ (by decide +kernel) (by decide +kernel)
      (fun m hm => by cases hm; decide +kernel),
    parse_roundTrip.2 _ _ (by cbv)⟩

end ShapeId

end ShapeKit
