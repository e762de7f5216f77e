import Mathlib.Data.List.Forall2
import Mathlib.Data.List.Nodup
import ShapeKit.Proofs.IdText
import ShapeKit.Trait.Uri

/-!
# The grammar of URI patterns

`UriPattern.parse` reads a pattern in one left-to-right scan: it checks the
leading slash and the query, then classifies the pieces of the path one after
the other against the labels read so far. This module states what the scan
accepts as a grammar, with no scan in it.

A pattern starts with `/`. Its path is the text before the first `?` and its
query the text after it, if there is one (`SplitAtQuery`); the query holds no
brace. The path after its leading slash is cut at every `/`, and the empty
pieces are dropped (`pathPieces`). Each piece writes one segment
(`UriSegment.Written`): a literal is the piece itself with no brace, a label
`name` is `{name}` and a greedy one `{name+}`, the name an identifier. The
label names are pairwise distinct and at most one label is greedy
(`LabelsOk`).

The scan keeps `LabelsOk` of the segments read so far; each piece either
extends them by the one segment it writes or is refused
(`readSegments_eq_ok_iff`, by induction on the pieces).

Main statement: `UriPattern.parse_eq_ok_iff` — `parse` reads a pattern exactly
when it has this form, and then gives the pattern's text, the segments its
pieces write, in order, and its query.
-/

namespace ShapeKit

theorem ShapeId.not_mem_of_splitFirst_eq_none {sep : Char} {cs : List Char}
    (h : ShapeId.splitFirst sep cs = none) : sep ∉ cs := by
  induction cs with
  | nil => exact List.not_mem_nil
  | cons c cs ih =>
    unfold ShapeId.splitFirst at h
    split at h
    · cases h
    · next hc =>
      rw [Option.map_eq_none_iff] at h
      exact fun hmem => (List.mem_cons.mp hmem).elim (fun he => hc he.symm) (ih h)

namespace UriSegment

/-- The label of a segment that is one. -/
def label? : UriSegment → Option UriLabel
  | .label l => some l
  | .literal _ => none

/-- How a piece of a path writes a segment: a literal is the piece itself with no
brace; a label is `{name}` and a greedy label `{name+}`, the name an identifier. -/
inductive Written : String → UriSegment → Prop
  | literal {raw : String} : '{' ∉ raw.toList → '}' ∉ raw.toList → Written raw (.literal raw)
  | label {name : String} : isIdentifier name = true →
      Written ("\x7b" ++ name ++ "\x7d") (.label ⟨name, false⟩)
  | greedyLabel {name : String} : isIdentifier name = true →
      Written ("\x7b" ++ name ++ "+\x7d") (.label ⟨name, true⟩)

end UriSegment

namespace UriPattern

open UriSegment

/-! ## §1. Labels, pieces and the query -/

/-- The labels of a run of segments have distinct names, and at most one is greedy. -/
def LabelsOk (segs : List UriSegment) : Prop :=
  ((segs.filterMap UriSegment.label?).map (·.name)).Nodup ∧
    ((segs.filterMap UriSegment.label?).filter (·.greedy)).length ≤ 1

theorem labels_eq (u : UriPattern) : u.labels = u.segments.filterMap UriSegment.label? := by
  unfold labels
  congr 1

/-- The non-empty pieces of a path between its slashes, after the leading one. -/
def pathPieces (path : List Char) : List String :=
  (((path.drop 1).splitOn '/').filter (· ≠ [])).map String.ofList

theorem pieces_eq (path : String) : parse.pieces path = pathPieces path.toList := by
  unfold parse.pieces pathPieces
  rw [String.splitToList_of_valid, String.toList_ofList, List.filter_map]
  congr 1
  apply List.filter_congr
  intro l _
  simp only [Function.comp, Bool.not_eq_eq_eq_not, decide_not]
  rw [Bool.eq_iff_iff]
  simp [String.isEmpty_iff]

/-- How a pattern splits at its first `?`: into the path before it and the query
after it, or, with no `?`, into the whole pattern as its path and no query. -/
inductive SplitAtQuery (p : String) : List Char → Option String → Prop
  | noQuery : '?' ∉ p.toList → SplitAtQuery p p.toList none
  | query {path q : List Char} : p.toList = path ++ '?' :: q → '?' ∉ path →
      SplitAtQuery p path (some (String.ofList q))

theorem splitAtQuery_of_none {p : String} (h : ShapeId.splitFirst '?' p.toList = none)
    {path : List Char} {query : Option String} :
    SplitAtQuery p path query ↔ path = p.toList ∧ query = none := by
  constructor
  · intro hs
    cases hs with
    | noQuery _ => exact ⟨rfl, rfl⟩
    | query hp hq =>
      rw [hp, ShapeId.splitFirst_append hq] at h
      cases h
  · rintro ⟨rfl, rfl⟩
    exact .noQuery (ShapeId.not_mem_of_splitFirst_eq_none h)

theorem splitAtQuery_of_some {p : String} {a b : List Char}
    (h : ShapeId.splitFirst '?' p.toList = some (a, b)) {path : List Char} {query : Option String} :
    SplitAtQuery p path query ↔ path = a ∧ query = some (String.ofList b) := by
  obtain ⟨hp, ha⟩ := ShapeId.eq_of_splitFirst h
  constructor
  · intro hs
    cases hs with
    | noQuery hq =>
      rw [hp] at hq
      exact absurd (List.mem_append_right a List.mem_cons_self) hq
    | query hp' hq =>
      rw [hp', ShapeId.splitFirst_append hq] at h
      obtain ⟨rfl, rfl⟩ := Prod.mk.inj (Option.some.inj h)
      exact ⟨rfl, rfl⟩
  · rintro ⟨rfl, rfl⟩
    exact .query hp ha

/-! ## §2. One piece -/

theorem braced?_eq_some_iff {cs inner : List Char} :
    braced? cs = some inner ↔ cs = '{' :: (inner ++ ['}']) := by
  rcases cs with _ | ⟨c, rest⟩
  · simp [braced?]
  by_cases hc : c = '{'
  · subst hc
    simp only [braced?, List.cons.injEq, true_and]
    by_cases hl : rest.getLast? = some '}'
    · obtain ⟨ys, rfl⟩ := List.getLast?_eq_some_iff.mp hl
      simp [eq_comm]
    · simp only [hl, beq_iff_eq, if_false, reduceCtorEq, false_iff]
      rintro rfl
      simp at hl
  · simp [braced?, hc]

theorem toList_label (name : String) :
    ("\x7b" ++ name ++ "\x7d").toList = '{' :: (name.toList ++ ['}']) := by
  simp

theorem toList_greedyLabel (name : String) :
    ("\x7b" ++ name ++ "+\x7d").toList = '{' :: ((name.toList ++ ['+']) ++ ['}']) := by
  simp

/-- An identifier does not end in `+`. -/
theorem getLast?_ne_plus {name : String} (h : isIdentifier name = true) :
    name.toList.getLast? ≠ some '+' := by
  intro hl
  have hplus := (isIdentifier_chars h).2 '+' (List.mem_of_getLast? hl)
  revert hplus
  decide

/-- A piece not of the form `{…}` writes a literal, when it holds no brace. -/
theorem written_iff_of_braced?_none {raw : String} (h : braced? raw.toList = none)
    (s : UriSegment) : Written raw s ↔ ('{' ∉ raw.toList ∧ '}' ∉ raw.toList) ∧ s = .literal raw := by
  constructor
  · intro hw
    cases hw with
    | literal h1 h2 => exact ⟨⟨h1, h2⟩, rfl⟩
    | label _ =>
      rw [toList_label, braced?_eq_some_iff.mpr rfl] at h
      cases h
    | greedyLabel _ =>
      rw [toList_greedyLabel, braced?_eq_some_iff.mpr rfl] at h
      cases h
  · rintro ⟨⟨h1, h2⟩, rfl⟩
    exact .literal h1 h2

/-- A piece `{inner}` writes the label named by `inner` less a final `+`, greedy
when there is one, when that name is an identifier. -/
theorem written_iff_of_braced?_some {raw : String} {inner nameChars : List Char} {greedy : Bool}
    (h : braced? raw.toList = some inner)
    (hng : (if inner.getLast? == some '+' then (inner.dropLast, true) else (inner, false)) =
      (nameChars, greedy)) (s : UriSegment) :
    Written raw s ↔ isIdentifier (String.ofList nameChars) = true ∧
      s = .label ⟨String.ofList nameChars, greedy⟩ := by
  have hraw := braced?_eq_some_iff.mp h
  constructor
  · intro hw
    cases hw with
    | literal h1 _ =>
      rw [hraw] at h1
      exact absurd List.mem_cons_self h1
    | label hid =>
      -- the inside is the name itself, which does not end in `+`
      rw [toList_label, List.cons.injEq, List.append_cancel_right_eq] at hraw
      obtain ⟨-, rfl⟩ := hraw
      simp only [getLast?_ne_plus hid, beq_iff_eq, if_false, Prod.mk.injEq] at hng
      obtain ⟨rfl, rfl⟩ := hng
      simpa using hid
    | greedyLabel hid =>
      rw [toList_greedyLabel, List.cons.injEq, List.append_cancel_right_eq] at hraw
      obtain ⟨-, rfl⟩ := hraw
      simp only [List.getLast?_concat, beq_self_eq_true, if_true, Prod.mk.injEq,
        List.dropLast_concat] at hng
      obtain ⟨rfl, rfl⟩ := hng
      simpa using hid
  · rintro ⟨hid, rfl⟩
    by_cases hl : inner.getLast? = some '+'
    · obtain ⟨ys, rfl⟩ := List.getLast?_eq_some_iff.mp hl
      simp only [hl, beq_self_eq_true, if_true, Prod.mk.injEq, List.dropLast_concat] at hng
      obtain ⟨rfl, rfl⟩ := hng
      have : raw = "\x7b" ++ String.ofList ys ++ "+\x7d" :=
        String.toList_injective (by rw [hraw, toList_greedyLabel, String.toList_ofList])
      rw [this]
      exact .greedyLabel hid
    · simp only [hl, beq_iff_eq, if_false, Prod.mk.injEq] at hng
      obtain ⟨rfl, rfl⟩ := hng
      have : raw = "\x7b" ++ String.ofList inner ++ "\x7d" :=
        String.toList_injective (by rw [hraw, toList_label, String.toList_ofList])
      rw [this]
      exact .label hid

/-! ## §3. The scan over the pieces -/

theorem labelsOk_nil : LabelsOk [] := ⟨List.nodup_nil, by simp⟩

theorem LabelsOk.of_append {xs ys : List UriSegment} (h : LabelsOk (xs ++ ys)) : LabelsOk xs := by
  unfold LabelsOk at h ⊢
  simp only [List.filterMap_append, List.map_append, List.filter_append, List.length_append] at h
  exact ⟨(List.nodup_append.mp h.1).1, by omega⟩

theorem labelsOk_append_literal {xs : List UriSegment} {raw : String} :
    LabelsOk (xs ++ [.literal raw]) ↔ LabelsOk xs := by
  simp [LabelsOk, UriSegment.label?, List.filterMap_cons]

/-- A label extends the labels read when its name is new and, if it is greedy,
no greedy label was read. -/
theorem labelsOk_append_label {xs : List UriSegment} {l : UriLabel} :
    LabelsOk (xs ++ [.label l]) ↔ LabelsOk xs ∧
      l.name ∉ (xs.filterMap UriSegment.label?).map (·.name) ∧
      (l.greedy = true → (xs.filterMap UriSegment.label?).any (·.greedy) = false) := by
  have hL : (xs ++ [UriSegment.label l]).filterMap UriSegment.label? =
      xs.filterMap UriSegment.label? ++ [l] := by
    simp [UriSegment.label?]
  unfold LabelsOk
  rw [hL]
  generalize xs.filterMap UriSegment.label? = L
  rw [List.map_append, List.nodup_append_comm, List.map_singleton, List.singleton_append,
    List.nodup_cons, List.filter_append, List.length_append]
  cases hg : l.greedy
  · -- a plain label only needs a new name
    simp [hg]
    tauto
  · -- a greedy one also needs no greedy label before it
    have h0 : (L.any (·.greedy) = false) ↔ (L.filter (·.greedy)).length = 0 := by
      simp [List.any_eq_false, List.filter_eq_nil_iff]
    simp only [hg, List.filter_cons_of_pos, List.filter_nil, List.length_singleton, forall_const, h0]
    constructor
    · rintro ⟨⟨hn, hnd⟩, hlen⟩
      exact ⟨⟨hnd, by omega⟩, hn, by omega⟩
    · rintro ⟨⟨hnd, -⟩, hn, hz⟩
      exact ⟨⟨hn, hnd⟩, by omega⟩

/-- A label read after `xs`, in segments whose labels are fine, has a new name
and, if greedy, follows no greedy label. -/
theorem LabelsOk.label_fresh {xs ys : List UriSegment} {l : UriLabel}
    (h : LabelsOk (xs ++ UriSegment.label l :: ys)) :
    l.name ∉ (xs.filterMap UriSegment.label?).map (·.name) ∧
      (l.greedy = true → (xs.filterMap UriSegment.label?).any (·.greedy) = false) := by
  rw [← List.singleton_append, ← List.append_assoc] at h
  exact (labelsOk_append_label.mp h.of_append).2

/-- The pieces after one that writes `s0` and nothing else. -/
theorem exists_written_cons {raw : String} {rest : List String} {s0 : UriSegment}
    (hw : ∀ s, Written raw s ↔ s = s0) {P : List UriSegment → Prop} :
    (∃ new, List.Forall₂ Written (raw :: rest) new ∧ P new) ↔
      ∃ new, List.Forall₂ Written rest new ∧ P (s0 :: new) := by
  simp only [List.forall₂_cons_left_iff]
  constructor
  · rintro ⟨_, ⟨s, new, hs, hrest, rfl⟩, hp⟩
    obtain rfl := (hw s).mp hs
    exact ⟨new, hrest, hp⟩
  · rintro ⟨new, hrest, hp⟩
    exact ⟨s0 :: new, ⟨s0, new, (hw s0).mpr rfl, hrest, rfl⟩, hp⟩

/-- The scan's test for a label read before, whatever form it takes: it holds
exactly when the name is among the names read. -/
theorem any_label_named_iff {acc : List UriSegment} {name : String} {F : UriSegment → Bool}
    (hl : ∀ l, F (.label l) = (l.name == name)) (ht : ∀ t, F (.literal t) = false) :
    acc.any F = true ↔ name ∈ (acc.reverse.filterMap UriSegment.label?).map (·.name) := by
  simp only [List.any_eq_true, List.mem_map, List.mem_filterMap, List.mem_reverse]
  constructor
  · rintro ⟨x, hx, hfx⟩
    cases x with
    | literal t => simp [ht] at hfx
    | label l => exact ⟨l, ⟨.label l, hx, rfl⟩, by simpa [hl] using hfx⟩
  · rintro ⟨l, ⟨x, hx, hxl⟩, rfl⟩
    cases x with
    | literal t => cases hxl
    | label l' =>
      cases hxl
      exact ⟨_, hx, by simp [hl]⟩

/-- **The scan over the pieces.** From segments read with `LabelsOk`, and the
greedy flag they give, the scan reads the remaining pieces exactly when they
write segments that keep `LabelsOk`, and then gives all segments in order. -/
theorem readSegments_eq_ok_iff (pattern : String) :
    ∀ (raws : List String) (acc segs : List UriSegment), LabelsOk acc.reverse →
      (readSegments pattern raws acc ((acc.filterMap UriSegment.label?).any (·.greedy)) = .ok segs ↔
        ∃ new, List.Forall₂ Written raws new ∧ segs = acc.reverse ++ new ∧ LabelsOk segs)
  | [], acc, segs, hok => by
    simp only [readSegments, Except.ok.injEq, List.forall₂_nil_left_iff, exists_eq_left,
      List.append_nil]
    constructor
    · rintro rfl
      exact ⟨rfl, hok⟩
    · rintro ⟨rfl, -⟩
      rfl
  | raw :: rest, acc, segs, hok => by
    rw [readSegments]
    split
    · next inner hbr =>
      split
      next nameChars greedy hng =>
      have hw := written_iff_of_braced?_some hbr hng
      by_cases hid : isIdentifier (String.ofList nameChars) = true
      swap
      · -- the name is no identifier: the piece writes nothing
        rw [if_pos (by simpa using hid)]
        simp only [reduceCtorEq, false_iff, List.forall₂_cons_left_iff]
        rintro ⟨_, ⟨s, new, hs, -, rfl⟩, -⟩
        exact hid ((hw s).mp hs).1
      rw [if_neg (by simpa using hid)]
      rw [exists_written_cons fun s => (hw s).trans (and_iff_right hid)]
      split
      · -- a label of that name was read before
        next hdup =>
        have hmem : String.ofList nameChars ∈
            (acc.reverse.filterMap UriSegment.label?).map (·.name) := by
          refine (any_label_named_iff ?_ ?_).mp hdup <;> intro _ <;> rfl
        simp only [reduceCtorEq, false_iff, not_exists, not_and]
        rintro new - rfl hok'
        exact hok'.label_fresh.1 hmem
      split
      · -- a second greedy label
        next hdup hgr =>
        simp only [Bool.and_eq_true] at hgr
        simp only [reduceCtorEq, false_iff, not_exists, not_and]
        rintro new - rfl hok'
        have hnone := hok'.label_fresh.2 hgr.1
        rw [List.filterMap_reverse, List.any_reverse, hgr.2] at hnone
        cases hnone
      · -- the label extends the segments read
        next hdup hgr =>
        have hok' : LabelsOk (UriSegment.label ⟨String.ofList nameChars, greedy⟩ :: acc).reverse := by
          rw [List.reverse_cons]
          refine labelsOk_append_label.mpr ⟨hok, fun hmem => hdup ?_, fun hg => ?_⟩
          · refine (any_label_named_iff ?_ ?_).mpr hmem <;> intro _ <;> rfl
          · have hg' : greedy = true := hg
            rw [List.filterMap_reverse, List.any_reverse]
            simpa [hg'] using hgr
        have hseen : ((acc.filterMap UriSegment.label?).any (·.greedy) || greedy) =
            ((UriSegment.label ⟨String.ofList nameChars, greedy⟩ :: acc).filterMap
              UriSegment.label?).any (·.greedy) := by
          simp [UriSegment.label?, Bool.or_comm]
        rw [hseen, readSegments_eq_ok_iff pattern rest _ segs hok']
        simp only [List.reverse_cons, List.append_assoc, List.singleton_append]
    · next hbr =>
      have hw := written_iff_of_braced?_none hbr
      split
      · -- a brace outside a label: the piece writes nothing
        next hbrace =>
        simp only [reduceCtorEq, false_iff, List.forall₂_cons_left_iff]
        rintro ⟨_, ⟨s, new, hs, -, rfl⟩, -⟩
        obtain ⟨⟨h1, h2⟩, -⟩ := (hw s).mp hs
        simp [String.contains_char_eq, h1, h2] at hbrace
      · -- the literal extends the segments read
        next hbrace =>
        have hnb : '{' ∉ raw.toList ∧ '}' ∉ raw.toList := by
          simpa [String.contains_char_eq] using hbrace
        rw [exists_written_cons fun s => (hw s).trans (and_iff_right hnb)]
        have hok' : LabelsOk (UriSegment.literal raw :: acc).reverse := by
          rw [List.reverse_cons]
          exact labelsOk_append_literal.mpr hok
        refine (readSegments_eq_ok_iff pattern rest (.literal raw :: acc) segs hok').trans ?_
        simp only [List.reverse_cons, List.append_assoc, List.singleton_append]

/-! ## §4. Patterns -/

theorem labelsOk_segments (u : UriPattern) :
    LabelsOk u.segments ↔ (u.labels.map (·.name)).Nodup ∧ (u.labels.filter (·.greedy)).length ≤ 1 := by
  rw [labels_eq]
  rfl

/-- The scan of a whole path, from no segments, and the pattern built from it. -/
theorem map_readSegments_eq_ok_iff {p path : String} {query : Option String} {u : UriPattern} :
    (readSegments p (parse.pieces path) [] false).map (fun segs => ⟨p, segs, query⟩) = .ok u ↔
      u.pattern = p ∧ u.query = query ∧ List.Forall₂ Written (pathPieces path.toList) u.segments ∧
        LabelsOk u.segments := by
  have hscan : ∀ segs, readSegments p (parse.pieces path) [] false = .ok segs ↔
      List.Forall₂ Written (pathPieces path.toList) segs ∧ LabelsOk segs := by
    intro segs
    rw [← pieces_eq]
    refine (readSegments_eq_ok_iff p _ [] segs labelsOk_nil).trans ⟨?_, ?_⟩
    · rintro ⟨new, hw, rfl, hok⟩
      exact ⟨hw, hok⟩
    · rintro ⟨hw, hok⟩
      exact ⟨segs, hw, rfl, hok⟩
  rcases u with ⟨p', segs, query'⟩
  cases hr : readSegments p (parse.pieces path) [] false with
  | error e =>
    simp only [Except.map, reduceCtorEq, false_iff, not_and]
    intro _ _ hw hok
    have := (hscan segs).mpr ⟨hw, hok⟩
    rw [hr] at this
    cases this
  | ok segs' =>
    simp only [Except.map, Except.ok.injEq, UriPattern.mk.injEq]
    constructor
    · rintro ⟨rfl, rfl, rfl⟩
      exact ⟨rfl, rfl, (hscan segs').mp hr⟩
    · rintro ⟨rfl, rfl, hw, hok⟩
      have := (hscan segs).mpr ⟨hw, hok⟩
      rw [hr] at this
      cases this
      exact ⟨rfl, rfl, rfl⟩

/-- **The grammar of URI patterns.** `parse` reads a pattern exactly when it
starts with `/`, the query after its first `?`, if any, holds no brace, each
non-empty piece of its path between slashes writes a segment, and the labels
among those segments have distinct names and at most one is greedy; the pattern
read holds the text, those segments in order, and the query. -/
theorem parse_eq_ok_iff {p : String} {u : UriPattern} :
    parse p = .ok u ↔
      p.toList.head? = some '/' ∧ u.pattern = p ∧
      ∃ path, SplitAtQuery p path u.query ∧ (∀ q ∈ u.query, '{' ∉ q.toList ∧ '}' ∉ q.toList) ∧
        List.Forall₂ Written (pathPieces path) u.segments ∧
        (u.labels.map (·.name)).Nodup ∧ (u.labels.filter (·.greedy)).length ≤ 1 := by
  rw [← labelsOk_segments]
  unfold parse
  split
  · next rest hp =>
    have hhead : p.toList.head? = some '/' := by rw [hp]; rfl
    cases hs : ShapeId.splitFirst '?' p.toList with
    | none =>
      simp only [map_readSegments_eq_ok_iff, splitAtQuery_of_none hs]
      constructor
      · rintro ⟨hpat, hq, hw, hok⟩
        exact ⟨hhead, hpat, p.toList, ⟨rfl, hq⟩, by simp [hq], hw, hok⟩
      · rintro ⟨-, hpat, path, ⟨rfl, hq⟩, -, hw, hok⟩
        exact ⟨hpat, hq, hw, hok⟩
    | some ab =>
      obtain ⟨a, b⟩ := ab
      simp only [splitAtQuery_of_some hs]
      split
      · -- a brace in the query
        next hbrace =>
        simp only [reduceCtorEq, false_iff, not_and, not_exists]
        rintro - - path ⟨-, hq⟩ hnb - -
        obtain ⟨h1, h2⟩ := hnb _ hq
        rw [String.toList_ofList] at h1 h2
        simp only [String.contains_char_eq, String.toList_ofList, Bool.or_eq_true,
          decide_eq_true_eq] at hbrace
        exact hbrace.elim h1 h2
      · next hbrace =>
        rw [map_readSegments_eq_ok_iff, String.toList_ofList]
        have hnb : '{' ∉ b ∧ '}' ∉ b := by simpa [String.contains_char_eq] using hbrace
        constructor
        · rintro ⟨hpat, hq, hw, hok⟩
          refine ⟨hhead, hpat, a, ⟨rfl, hq⟩, fun q hmem => ?_, hw, hok⟩
          rw [hq, Option.mem_some_iff] at hmem
          subst hmem
          simpa using hnb
        · rintro ⟨-, hpat, path, ⟨rfl, hq⟩, -, hw, hok⟩
          exact ⟨hpat, hq, hw, hok⟩
  · next hp =>
    simp only [reduceCtorEq, false_iff, not_and]
    intro hhead
    obtain ⟨c, tail, hct⟩ := List.exists_cons_of_ne_nil (fun h => by simp [h] at hhead : p.toList ≠ [])
    rw [hct] at hhead hp
    cases hhead
    exact absurd rfl (hp tail)

end UriPattern

end ShapeKit