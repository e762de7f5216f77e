import ShapeKit.Proofs.ValueEquality

/-!
# Compact text of canonical values

`Node.compact` writes a value with no blanks and each object's entries in
their stored order. On values whose numbers are integers of their class (no
doubles, and `neg` holding a negative integer) the text determines the value:
the first character tells the kind, a string ends at its first unescaped
quote, and an integer at the first character that is no digit
(`Node.Canonical.compact_inj`).

Equal values need not be written alike, since two objects with the same
entries in another order are equal (`Node.equal`). A canonical value also
keeps the keys of each object in increasing order; on canonical values
equality is identity (`Node.Canonical.equal_iff_eq`), so two of them are
equal exactly when they are written alike
(`Node.Canonical.equal_iff_compact_eq`).
-/

namespace ShapeKit.Json

/-! ## §1. Canonical values -/

/-- A value whose objects keep their keys in strictly increasing order and
whose numbers are integers of their class: no doubles, and `neg` holding a
negative integer. -/
inductive Node.Canonical : Node → Prop
  | null : Node.Canonical .null
  | bool (b : Bool) : Node.Canonical (.bool b)
  | nat (n : Nat) : Node.Canonical (.num (.nat n))
  | neg {n : Int} (h : n < 0) : Node.Canonical (.num (.neg n))
  | str (s : String) : Node.Canonical (.str s)
  | arr {items : List Node} (h : ∀ x ∈ items, x.Canonical) : Node.Canonical (.arr items)
  | obj {entries : List (String × Node)} (keys : (entries.map Prod.fst).Pairwise (· < ·))
      (values : ∀ e ∈ entries, e.2.Canonical) : Node.Canonical (.obj entries)

/-- Increasing keys are distinct keys. -/
theorem Node.Canonical.keysDistinct {x : Node} (hx : x.Canonical) : x.KeysDistinct := by
  induction hx with
  | null => exact .null
  | bool b => exact .bool b
  | nat n => exact .num _
  | neg _ => exact .num _
  | str s => exact .str s
  | arr _ ih => exact .arr ih
  | obj keys _ ih => exact .obj (keys.imp ne_of_lt) ih

/-! ## §2. Integers and strings read back -/

/-- A rest of a text that cannot extend an integer before it: empty, or
beginning with a character that is no digit. -/
def StopsNumber (r : List Char) : Prop := ∀ c ∈ r.head?, c.isDigit = false

theorem stopsNumber_nil : StopsNumber [] := by simp [StopsNumber]

theorem stopsNumber_cons {c : Char} (r : List Char) (h : c.isDigit = false) : StopsNumber (c :: r) := by
  simpa [StopsNumber] using h

/-- Two runs of digits, each followed by a rest that cannot extend it, are one run. -/
theorem digits_append_inj : ∀ {a b r₁ r₂ : List Char}, (∀ c ∈ a, c.isDigit) → (∀ c ∈ b, c.isDigit) →
    StopsNumber r₁ → StopsNumber r₂ → a ++ r₁ = b ++ r₂ → a = b ∧ r₁ = r₂
  | [], [], _, _, _, _, _, _, h => ⟨rfl, h⟩
  | [], c :: _, _, _, _, hb, h₁, _, h => by
    subst h
    simpa [hb c List.mem_cons_self] using h₁ c
  | c :: _, [], _, _, ha, _, _, h₂, h => by
    subst h
    simpa [ha c List.mem_cons_self] using h₂ c
  | c :: a, d :: b, _, _, ha, hb, h₁, h₂, h => by
    rw [List.cons_append, List.cons_append, List.cons.injEq] at h
    obtain ⟨rfl, h⟩ := h
    obtain ⟨rfl, rfl⟩ := digits_append_inj (fun x hx => ha x (List.mem_cons_of_mem _ hx))
      (fun x hx => hb x (List.mem_cons_of_mem _ hx)) h₁ h₂ h
    exact ⟨rfl, rfl⟩

/-- The decimal digits of two naturals, each followed by a rest that cannot
extend them, are those of one natural. -/
theorem toDigits_append_inj {n n' : Nat} {r₁ r₂ : List Char} (h₁ : StopsNumber r₁) (h₂ : StopsNumber r₂)
    (h : Nat.toDigits 10 n ++ r₁ = Nat.toDigits 10 n' ++ r₂) : n = n' ∧ r₁ = r₂ := by
  have hdigit : ∀ m, ∀ c ∈ Nat.toDigits 10 m, c.isDigit := fun _ _ hc =>
    Nat.isDigit_of_mem_toDigits (by decide) (by decide) hc
  obtain ⟨hd, hr⟩ := digits_append_inj (hdigit n) (hdigit n') h₁ h₂ h
  refine ⟨?_, hr⟩
  rw [← Nat.ofDigitChars_ten_toDigits (n := n), hd, Nat.ofDigitChars_ten_toDigits]

/-- One escaped character read back: the inverse of `escapeChar` on the texts
it writes, with what follows. -/
def unescapeChar : List Char → Option (Char × List Char)
  | '\\' :: 'u' :: '0' :: '0' :: h :: l :: rest =>
    match hexValue h, hexValue l with
    | some a, some b => some (Char.ofNat (16 * a + b), rest)
    | _, _ => none
  | '\\' :: 'n' :: rest => some ('\n', rest)
  | '\\' :: 'r' :: rest => some ('\r', rest)
  | '\\' :: 't' :: rest => some ('\t', rest)
  | '\\' :: 'b' :: rest => some ('\x08', rest)
  | '\\' :: 'f' :: rest => some ('\x0c', rest)
  | '\\' :: e :: rest => some (e, rest)
  | c :: rest => some (c, rest)
  | [] => none

theorem hexValue_hexDigit {n : Nat} (h : n < 16) : hexValue (hexDigit n) = some n := by
  have : ∀ n < 16, hexValue (hexDigit n) = some n := by decide
  exact this n h

theorem unescapeChar_escapeChar (c : Char) (rest : List Char) :
    unescapeChar (escapeChar c ++ rest) = some (c, rest) := by
  unfold escapeChar
  split_ifs with hq hb hn hr ht hbs hf hctl
  · subst hq; rfl
  · subst hb; rfl
  · subst hn; rfl
  · subst hr; rfl
  · subst ht; rfl
  · subst hbs; rfl
  · subst hf; rfl
  · -- a control character without a name: `\u00` and two hexadecimal digits
    have hhi := hexValue_hexDigit (n := c.toNat / 16) (by omega)
    have hlo := hexValue_hexDigit (n := c.toNat % 16) (Nat.mod_lt _ (by decide))
    simp only [List.cons_append, List.nil_append, unescapeChar, hhi, hlo, Nat.div_add_mod, Char.ofNat_toNat]
  · simp [unescapeChar, hb]

theorem escapeChar_append_inj {c d : Char} {r₁ r₂ : List Char}
    (h : escapeChar c ++ r₁ = escapeChar d ++ r₂) : c = d ∧ r₁ = r₂ := by
  have hc := unescapeChar_escapeChar c r₁
  rw [h, unescapeChar_escapeChar d r₂, Option.some.injEq, Prod.mk.injEq] at hc
  exact ⟨hc.1.symm, hc.2.symm⟩

/-- An escaped character never begins with a quote. -/
theorem escapeChar_head (c : Char) : ∃ a e, escapeChar c = a :: e ∧ a ≠ '"' := by
  unfold escapeChar
  split_ifs with hq
  all_goals first
    | exact ⟨'\\', _, rfl, by decide⟩
    | exact ⟨c, [], rfl, hq⟩

/-- The escaped characters of a string run up to its first unescaped quote. -/
theorem escaped_append_inj : ∀ {cs ds r₁ r₂ : List Char},
    cs.flatMap escapeChar ++ '"' :: r₁ = ds.flatMap escapeChar ++ '"' :: r₂ → cs = ds ∧ r₁ = r₂
  | [], [], _, _, h => ⟨rfl, by simpa using h⟩
  | [], d :: _, _, _, h => by
    obtain ⟨a, e, he, ha⟩ := escapeChar_head d
    simp only [List.flatMap_nil, List.nil_append, List.flatMap_cons, he, List.cons_append,
      List.append_assoc, List.cons.injEq] at h
    exact absurd h.1.symm ha
  | c :: _, [], _, _, h => by
    obtain ⟨a, e, he, ha⟩ := escapeChar_head c
    simp only [List.flatMap_nil, List.nil_append, List.flatMap_cons, he, List.cons_append,
      List.append_assoc, List.cons.injEq] at h
    exact absurd h.1 ha
  | c :: cs, d :: ds, _, _, h => by
    simp only [List.flatMap_cons, List.append_assoc] at h
    obtain ⟨rfl, hrest⟩ := escapeChar_append_inj h
    obtain ⟨rfl, rfl⟩ := escaped_append_inj hrest
    exact ⟨rfl, rfl⟩

/-- A quoted string is read back whatever follows it. -/
theorem quote_append_inj {s t : String} {r₁ r₂ : List Char}
    (h : (quote s).toList ++ r₁ = (quote t).toList ++ r₂) : s = t ∧ r₁ = r₂ := by
  simp only [quote, String.toList_ofList, List.cons_append, List.append_assoc, List.cons.injEq, true_and] at h
  obtain ⟨hst, rfl⟩ := escaped_append_inj h
  exact ⟨String.toList_inj.1 hst, rfl⟩

/-! ## §3. Compact text read back -/

/-- The kind of a value as its first character tells it. -/
def leadKind (c : Char) : Nat :=
  if c = 'n' then 0 else if c = 't' then 1 else if c = 'f' then 2 else if c.isDigit then 3
  else if c = '-' then 4 else if c = '"' then 5 else if c = '[' then 6 else if c = '{' then 7 else 8

/-- The kind of a value: which character its compact text begins with. -/
def Node.kind : Node → Nat
  | .null => 0
  | .bool true => 1
  | .bool false => 2
  | .num (.nat _) => 3
  | .num (.neg _) => 4
  | .num (.float _) => 8
  | .str _ => 5
  | .arr _ => 6
  | .obj _ => 7

/-- The text of array items after the first, closing bracket included, then `r`. -/
def closeItems (r : List Char) : List Node → List Char
  | [] => ']' :: r
  | x :: xs => ',' :: (x.compact.toList ++ closeItems r xs)

/-- The text of object entries after the first, closing brace included, then `r`. -/
def closeEntries (r : List Char) : List (String × Node) → List Char
  | [] => '}' :: r
  | (k, v) :: es => ',' :: ((quote k).toList ++ ':' :: (v.compact.toList ++ closeEntries r es))

theorem compactItems_append (r : List Char) :
    ∀ (x : Node) (xs : List Node), (compactItems (x :: xs)).toList ++ ']' :: r = x.compact.toList ++ closeItems r xs
  | _, [] => by simp [compactItems, closeItems]
  | x, y :: ys => by
    simp [compactItems, closeItems, String.toList_append, ← compactItems_append r y ys]

theorem compactEntries_append (r : List Char) :
    ∀ (k : String) (v : Node) (es : List (String × Node)), (compactEntries ((k, v) :: es)).toList ++ '}' :: r =
      (quote k).toList ++ ':' :: (v.compact.toList ++ closeEntries r es)
  | _, _, [] => by simp [compactEntries, closeEntries, String.toList_append]
  | k, v, (k', v') :: es => by
    simp [compactEntries, closeEntries, String.toList_append, ← compactEntries_append r k' v' es]

theorem arr_compact_append (xs : List Node) (r : List Char) :
    (Node.arr xs).compact.toList ++ r = '[' :: ((compactItems xs).toList ++ ']' :: r) := by
  simp [Node.compact, String.toList_append]

theorem obj_compact_append (es : List (String × Node)) (r : List Char) :
    (Node.obj es).compact.toList ++ r = '{' :: ((compactEntries es).toList ++ '}' :: r) := by
  simp [Node.compact, String.toList_append]

namespace Node.Canonical

/-- The compact text of a canonical value begins with a character of its kind. -/
theorem compact_head {x : Node} (hx : x.Canonical) : ∃ c rest, x.compact.toList = c :: rest ∧ leadKind c = x.kind := by
  cases hx with
  | null => exact ⟨'n', _, rfl, rfl⟩
  | bool b => cases b <;> exact ⟨_, _, rfl, rfl⟩
  | nat n =>
    obtain ⟨d, ds, hd⟩ := List.exists_cons_of_ne_nil (Nat.toDigits_ne_nil (n := n) (b := 10))
    have hdigit : d.isDigit := Nat.isDigit_of_mem_toDigits (by decide) (by decide) (hd ▸ List.mem_cons_self)
    -- a digit is none of the letters that begin the words
    have hn : d ≠ 'n' := by rintro rfl; simp at hdigit
    have ht : d ≠ 't' := by rintro rfl; simp at hdigit
    have hf : d ≠ 'f' := by rintro rfl; simp at hdigit
    refine ⟨d, ds, ?_, by simp [leadKind, Node.kind, hn, ht, hf, hdigit]⟩
    simpa [Node.compact, Number.text] using hd
  | @neg n h =>
    refine ⟨'-', (-n).toNat.repr.toList, ?_, rfl⟩
    simp [Node.compact, Number.text, Int.repr_eq_if, Int.not_le.2 h]
  | str s => exact ⟨'"', s.toList.flatMap escapeChar ++ ['"'], by simp [Node.compact, quote], rfl⟩
  | @arr items _ =>
    exact ⟨'[', (compactItems items).toList ++ [']'], by simp [Node.compact, String.toList_append], rfl⟩
  | @obj entries _ _ =>
    exact ⟨'{', (compactEntries entries).toList ++ ['}'], by simp [Node.compact, String.toList_append], rfl⟩

theorem kind_lt {x : Node} (hx : x.Canonical) : x.kind < 8 := by
  cases hx with
  | bool b => cases b <;> simp [Node.kind]
  | _ => simp [Node.kind]

/-- Texts that agree after two canonical values begin alike, so the values are of one kind. -/
theorem kind_eq {x y : Node} {r₁ r₂ : List Char} (hx : x.Canonical) (hy : y.Canonical)
    (h : x.compact.toList ++ r₁ = y.compact.toList ++ r₂) : x.kind = y.kind := by
  obtain ⟨c, _, hc, hkc⟩ := hx.compact_head
  obtain ⟨d, _, hd, hkd⟩ := hy.compact_head
  rw [hc, hd, List.cons_append, List.cons_append, List.cons.injEq] at h
  rw [← hkc, ← hkd, h.1]

/-- No canonical value begins with a separator or a closing bracket. -/
theorem compact_ne_cons {x : Node} (hx : x.Canonical) {c : Char} (hc : leadKind c = 8) (rest r : List Char) :
    x.compact.toList ++ rest ≠ c :: r := by
  obtain ⟨d, _, hd, hkd⟩ := hx.compact_head
  rw [hd, List.cons_append]
  intro h
  obtain ⟨rfl, -⟩ := List.cons.inj h
  have := hx.kind_lt
  omega

end Node.Canonical

theorem stopsNumber_closeItems (r : List Char) (xs : List Node) : StopsNumber (closeItems r xs) := by
  cases xs <;> exact stopsNumber_cons _ (by decide)

theorem stopsNumber_closeEntries (r : List Char) (es : List (String × Node)) :
    StopsNumber (closeEntries r es) := by
  cases es <;> exact stopsNumber_cons _ (by decide)

section ReadBack

/-- Every value of the list is read back from its text whatever follows. -/
def ReadsBack (xs : List Node) : Prop :=
  ∀ x ∈ xs, ∀ {y : Node} {r₁ r₂ : List Char}, y.Canonical → StopsNumber r₁ → StopsNumber r₂ →
    x.compact.toList ++ r₁ = y.compact.toList ++ r₂ → x = y ∧ r₁ = r₂

theorem ReadsBack.tail {x : Node} {xs : List Node} (h : ReadsBack (x :: xs)) : ReadsBack xs :=
  fun y hy => h y (List.mem_cons_of_mem _ hy)

/-- Array items after the first are read back, and so is what follows them. -/
theorem closeItems_inj : ∀ {xs ys : List Node} {r₁ r₂ : List Char}, ReadsBack xs → (∀ y ∈ ys, y.Canonical) →
    closeItems r₁ xs = closeItems r₂ ys → xs = ys ∧ r₁ = r₂
  | [], [], _, _, _, _, h => ⟨rfl, List.cons.inj h |>.2⟩
  | [], _ :: _, _, _, _, _, h => by simp [closeItems] at h
  | _ :: _, [], _, _, _, _, h => by simp [closeItems] at h
  | x :: xs, y :: ys, r₁, r₂, hxs, hys, h => by
    rw [closeItems, closeItems, List.cons.injEq] at h
    obtain ⟨rfl, hrest⟩ := hxs x List.mem_cons_self (hys y List.mem_cons_self)
      (stopsNumber_closeItems r₁ xs) (stopsNumber_closeItems r₂ ys) h.2
    obtain ⟨rfl, rfl⟩ := closeItems_inj hxs.tail (fun y hy => hys y (List.mem_cons_of_mem _ hy)) hrest
    exact ⟨rfl, rfl⟩

/-- The items of an array are read back up to its closing bracket. -/
theorem compactItems_inj {xs ys : List Node} {r₁ r₂ : List Char} (hxc : ∀ x ∈ xs, x.Canonical)
    (hxs : ReadsBack xs) (hys : ∀ y ∈ ys, y.Canonical)
    (h : (compactItems xs).toList ++ ']' :: r₁ = (compactItems ys).toList ++ ']' :: r₂) : xs = ys ∧ r₁ = r₂ := by
  match xs, ys, hxc, hxs, hys, h with
  | [], [], _, _, _, h => exact ⟨rfl, List.cons.inj h |>.2⟩
  | [], y :: ys, _, _, hys, h =>
    rw [compactItems_append] at h
    exact absurd h.symm ((hys y List.mem_cons_self).compact_ne_cons (by decide) _ _)
  | x :: xs, [], hxc, _, _, h =>
    rw [compactItems_append] at h
    exact absurd h ((hxc x List.mem_cons_self).compact_ne_cons (by decide) _ _)
  | x :: xs, y :: ys, _, hxs, hys, h =>
    -- put the separator back in front, and read all items as items after a first
    rw [compactItems_append, compactItems_append] at h
    exact closeItems_inj hxs hys (by rw [closeItems, closeItems, h])

/-- Object entries after the first are read back, and so is what follows them. -/
theorem closeEntries_inj : ∀ {es fs : List (String × Node)} {r₁ r₂ : List Char}, ReadsBack (es.map Prod.snd) →
    (∀ e ∈ fs, e.2.Canonical) → closeEntries r₁ es = closeEntries r₂ fs → es = fs ∧ r₁ = r₂
  | [], [], _, _, _, _, h => ⟨rfl, List.cons.inj h |>.2⟩
  | [], _ :: _, _, _, _, _, h => by simp [closeEntries] at h
  | _ :: _, [], _, _, _, _, h => by simp [closeEntries] at h
  | (k, v) :: es, (k', v') :: fs, r₁, r₂, hes, hfs, h => by
    rw [closeEntries, closeEntries, List.cons.injEq] at h
    -- the key, then the colon, then the value
    obtain ⟨rfl, hcolon⟩ := quote_append_inj h.2
    rw [List.cons.injEq] at hcolon
    obtain ⟨rfl, hrest⟩ := hes v List.mem_cons_self (hfs (k, v') List.mem_cons_self)
      (stopsNumber_closeEntries r₁ es) (stopsNumber_closeEntries r₂ fs) hcolon.2
    obtain ⟨rfl, rfl⟩ := closeEntries_inj hes.tail (fun e he => hfs e (List.mem_cons_of_mem _ he)) hrest
    exact ⟨rfl, rfl⟩

/-- The entries of an object are read back up to its closing brace. -/
theorem compactEntries_inj {es fs : List (String × Node)} {r₁ r₂ : List Char}
    (hes : ReadsBack (es.map Prod.snd)) (hfs : ∀ e ∈ fs, e.2.Canonical)
    (h : (compactEntries es).toList ++ '}' :: r₁ = (compactEntries fs).toList ++ '}' :: r₂) :
    es = fs ∧ r₁ = r₂ := by
  match es, fs, hes, hfs, h with
  | [], [], _, _, h => exact ⟨rfl, List.cons.inj h |>.2⟩
  | [], (k, v) :: fs, _, _, h =>
    rw [compactEntries_append] at h
    simp [quote, compactEntries] at h
  | (k, v) :: es, [], _, _, h =>
    rw [compactEntries_append] at h
    simp [quote, compactEntries] at h
  | (k, v) :: es, (k', v') :: fs, hes, hfs, h =>
    rw [compactEntries_append, compactEntries_append] at h
    exact closeEntries_inj hes hfs (by rw [closeEntries, closeEntries, h])

end ReadBack

namespace Node.Canonical

/-- **Compact text is read back.** A canonical value is determined by its
compact text, and so is whatever follows, as long as it cannot extend an
integer. The first characters agree, so the two values are of one kind; the
induction is on the first value. -/
theorem compact_append_inj {x : Node} (hx : x.Canonical) :
    ∀ {y : Node} {r₁ r₂ : List Char}, y.Canonical → StopsNumber r₁ → StopsNumber r₂ →
      x.compact.toList ++ r₁ = y.compact.toList ++ r₂ → x = y ∧ r₁ = r₂ := by
  induction hx with
  | null =>
    intro y r₁ r₂ hy _ _ h
    have hk := kind_eq .null hy h
    rcases hy with _ | ⟨_ | _⟩ | _ | _ | _ | _ | _ <;> simp [Node.kind] at hk
    exact ⟨rfl, List.append_cancel_left h⟩
  | bool b =>
    intro y r₁ r₂ hy _ _ h
    have hk := kind_eq (.bool b) hy h
    cases b <;> rcases hy with _ | ⟨_ | _⟩ | _ | _ | _ | _ | _ <;> simp [Node.kind] at hk
    all_goals exact ⟨rfl, List.append_cancel_left h⟩
  | nat n =>
    intro y r₁ r₂ hy h₁ h₂ h
    have hk := kind_eq (.nat n) hy h
    rcases hy with _ | ⟨_ | _⟩ | n' | _ | _ | _ | _ <;> simp [Node.kind] at hk
    simp only [Node.compact, Number.text, Nat.toString_eq_ofList_toDigits, String.toList_ofList] at h
    obtain ⟨rfl, rfl⟩ := toDigits_append_inj h₁ h₂ h
    exact ⟨rfl, rfl⟩
  | @neg n hn =>
    intro y r₁ r₂ hy h₁ h₂ h
    have hk := kind_eq (.neg hn) hy h
    rcases hy with _ | ⟨_ | _⟩ | _ | @⟨n', hn'⟩ | _ | _ | _ <;> simp [Node.kind] at hk
    -- a minus sign, then the digits of the magnitude
    simp [Node.compact, Number.text, Int.repr_eq_if, Int.not_le.2 hn, Int.not_le.2 hn'] at h
    obtain ⟨hmag, rfl⟩ := toDigits_append_inj h₁ h₂ h
    exact ⟨by congr 2; omega, rfl⟩
  | str s =>
    intro y r₁ r₂ hy _ _ h
    have hk := kind_eq (.str s) hy h
    rcases hy with _ | ⟨_ | _⟩ | _ | _ | s' | _ | _ <;> simp [Node.kind] at hk
    obtain ⟨rfl, rfl⟩ := quote_append_inj h
    exact ⟨rfl, rfl⟩
  | arr hitems ih =>
    intro y r₁ r₂ hy _ _ h
    have hk := kind_eq (.arr hitems) hy h
    rcases hy with _ | ⟨_ | _⟩ | _ | _ | _ | hys | _ <;> simp [Node.kind] at hk
    rw [arr_compact_append, arr_compact_append, List.cons.injEq] at h
    obtain ⟨rfl, rfl⟩ := compactItems_inj hitems ih hys h.2
    exact ⟨rfl, rfl⟩
  | obj keys values ih =>
    intro y r₁ r₂ hy _ _ h
    have hk := kind_eq (.obj keys values) hy h
    rcases hy with _ | ⟨_ | _⟩ | _ | _ | _ | _ | ⟨-, hfs⟩ <;> simp [Node.kind] at hk
    rw [obj_compact_append, obj_compact_append, List.cons.injEq] at h
    obtain ⟨rfl, rfl⟩ := compactEntries_inj (fun v hv => by
      obtain ⟨e, he, rfl⟩ := List.mem_map.1 hv
      exact ih e he) hfs h.2
    exact ⟨rfl, rfl⟩

/-- Two canonical values written alike are the same value. -/
theorem compact_inj {x y : Node} (hx : x.Canonical) (hy : y.Canonical) (h : x.compact = y.compact) : x = y :=
  (hx.compact_append_inj hy stopsNumber_nil stopsNumber_nil (by rw [h])).1

end Node.Canonical

/-! ## §4. Equality of canonical values -/

namespace Node

theorem equalItems_self : ∀ {xs : List Node}, (∀ x ∈ xs, x.equal x = true) → equalItems xs xs = true
  | [], _ => rfl
  | x :: xs, h => by
    rw [equalItems, h x List.mem_cons_self, equalItems_self fun y hy => h y (List.mem_cons_of_mem _ hy)]
    rfl

/-- Arrays whose items are equal item by item, each item of the first equal
only to itself, are the same array. -/
theorem eq_of_equalItems : ∀ {xs ys : List Node},
    (∀ x ∈ xs, ∀ {y : Node}, y.Canonical → x.equal y = true → x = y) →
      (∀ y ∈ ys, y.Canonical) → equalItems xs ys = true → xs = ys
  | [], [], _, _, _ => rfl
  | [], _ :: _, _, _, h => by simp [equalItems] at h
  | _ :: _, [], _, _, h => by simp [equalItems] at h
  | x :: xs, y :: ys, ih, hys, h => by
    rw [equalItems, Bool.and_eq_true] at h
    rw [ih x List.mem_cons_self (hys y List.mem_cons_self) h.1,
      eq_of_equalItems (fun x' hx' => ih x' (List.mem_cons_of_mem _ hx'))
        (fun y' hy' => hys y' (List.mem_cons_of_mem _ hy')) h.2]

/-- Two objects with keys in increasing order, as many entries, and each entry
of the first equal to the one under its key in the second, are the same
object: every entry of the first is one of the second, and two lists sorted
by key and a permutation of each other are one list. -/
theorem eq_of_equalEntries {xs ys : List (String × Node)}
    (ih : ∀ e ∈ xs, ∀ {y : Node}, y.Canonical → e.2.equal y = true → e.2 = y)
    (hxs : (xs.map Prod.fst).Pairwise (· < ·)) (hys : (ys.map Prod.fst).Pairwise (· < ·))
    (hys' : ∀ e ∈ ys, e.2.Canonical) (hlen : xs.length = ys.length) (h : equalEntries xs ys = true) :
    xs = ys := by
  have hsub : xs ⊆ ys := by
    intro e he
    obtain ⟨w, hw, hew⟩ := equalEntries_iff.1 h e he
    have hmem := mem_of_lookup hw
    have hval : e.2 = w := ih e he (hys' _ hmem) hew
    rwa [← hval] at hmem
  have hxs' : xs.Pairwise (fun a b => a.1 < b.1) := List.pairwise_map.1 hxs
  have hys'' : ys.Pairwise (fun a b => a.1 < b.1) := List.pairwise_map.1 hys
  have hnd : xs.Nodup := by
    refine hxs'.imp fun {a b} hab heq => ?_
    subst heq
    exact lt_irrefl _ hab
  have hperm : xs.Perm ys := (hnd.subperm hsub).perm_of_length_le (by omega)
  exact hperm.eq_of_pairwise (fun _ _ _ _ hab hba => absurd (hab.trans hba) (lt_irrefl _)) hxs' hys''

end Node

namespace Node.Canonical

/-- Equality is reflexive on canonical values: no double, so no `NaN`, and no
repeated key. -/
theorem equal_self {x : Node} (hx : x.Canonical) : x.equal x = true := by
  induction hx with
  | null => rfl
  | bool b => simp [equal]
  | nat n => simp [equal, Number.equal]
  | neg _ => simp [equal, Number.equal]
  | str s => simp [equal]
  | arr _ ih => exact equalItems_self ih
  | obj keys _ ih =>
    rw [equal, Bool.and_eq_true, beq_iff_eq, equalEntries_iff]
    exact ⟨rfl, fun e he => ⟨e.2, lookup_of_mem (keys.imp ne_of_lt) he, ih e he⟩⟩

/-- Equal canonical values are the same value. The induction is on the first
value; objects need the order of their keys. -/
theorem eq_of_equal {x : Node} (hx : x.Canonical) : ∀ {y : Node}, y.Canonical → x.equal y = true → x = y := by
  induction hx with
  | null => intro y _ h; cases y <;> simp_all [equal]
  | bool b => intro y _ h; cases y <;> simp_all [equal]
  | nat n =>
    intro y _ h
    cases y with
    | num m => cases m <;> simp_all [equal, Number.equal]
    | _ => simp [equal] at h
  | neg _ =>
    intro y _ h
    cases y with
    | num m => cases m <;> simp_all [equal, Number.equal]
    | _ => simp [equal] at h
  | str s => intro y _ h; cases y <;> simp_all [equal]
  | arr _ ih =>
    intro y hy h
    cases hy with
    | arr hys => rw [eq_of_equalItems ih hys h]
    | _ => simp [equal] at h
  | obj keys _ ih =>
    intro y hy h
    cases hy with
    | obj keys' values' =>
      rw [equal, Bool.and_eq_true, beq_iff_eq] at h
      rw [eq_of_equalEntries ih keys keys' values' h.1 h.2]
    | _ => simp [equal] at h

/-- **On canonical values equality is identity.** -/
theorem equal_iff_eq {x y : Node} (hx : x.Canonical) (hy : y.Canonical) : x.equal y = true ↔ x = y :=
  ⟨hx.eq_of_equal hy, by rintro rfl; exact hx.equal_self⟩

/-- Two canonical values are equal exactly when they are written alike. -/
theorem equal_iff_compact_eq {x y : Node} (hx : x.Canonical) (hy : y.Canonical) :
    x.equal y = true ↔ x.compact = y.compact := by
  rw [hx.equal_iff_eq hy]
  exact ⟨congrArg Node.compact, hx.compact_inj hy⟩

end Node.Canonical

end ShapeKit.Json
