import ShapeKit.Selector.Syntax
import ShapeKit.Text.Blank

/-!
# Reading selectors

The grammar, with `ws` any run of ASCII blanks:

```text
selector   = 1*(ws step)
step       = neighbor / function / attribute / shape-type
neighbor   = "~>" / "-[" labels "]->" / "<-[" labels "]-" / ">" / "<"
function   = ":" name "(" ws selector *("," selector) ws ")"
attribute  = "[" (scoped / filter) ws "]"
filter     = ws path [ws comparator ws value *("," value) [" i"]]
scoped     = ws "@" [path] ws ":" assertion *("&&" assertion)
```

A failed piece is either *soft*, and the reader tries the next alternative,
or *hard*, and the whole reading stops there. Everything after an opening
`-[`, `<-[`, `:` or `[` is hard, and so are an unknown type, label, function
or attribute name, so the reported place points at the real problem. Of two
soft failures of alternatives the one that read further is kept, the earlier
on a tie. A soft failure of a basic piece reads `Unexpected input (<piece>)`,
with pieces `Char`, `Tag`, `TakeWhile1`, `Take until`, `Multiple spaces`.

Places are byte offsets into the text as given, untrimmed.
-/

namespace ShapeKit.Selector

/-! ## §1. Outcomes -/

/-- A failed reading: soft (`miss`) or hard (`stop`), at the rest of the input. -/
inductive Miss where
  | miss (rest : List Char) (message : String)
  | stop (rest : List Char) (message : String)

namespace Miss

/-- The rest of the input where the reading failed. -/
def rest : Miss → List Char
  | .miss r _ | .stop r _ => r

/-- The message. -/
def message : Miss → String
  | .miss _ m | .stop _ m => m

/-- Of two soft failures, the one that read further; the first on a tie. -/
def further (a b : Miss) : Miss := if b.rest.length < a.rest.length then b else a

/-- A soft failure becomes hard. -/
def harden : Miss → Miss
  | .miss r m => .stop r m
  | m => m

end Miss

/-- The outcome of reading a piece: the rest and the value, or a failure. -/
abbrev Outcome (α : Type) := Except Miss (List Char × α)

/-- A soft failure of a basic piece. -/
def unexpected {α : Type} (rest : List Char) (piece : String) : Outcome α :=
  .error (.miss rest s!"Unexpected input ({piece})")

/-- A hard failure with a message. -/
def stopAt {α : Type} (rest : List Char) (message : String) : Outcome α :=
  .error (.stop rest message)

/-- Tries `p`, then `q` on a soft failure, keeping the further failure. -/
def orElse {α : Type} (p q : List Char → Outcome α) (s : List Char) : Outcome α :=
  match p s with
  | .error (.miss r m) =>
    match q s with
    | .error (.miss r' m') => .error (Miss.further (.miss r m) (.miss r' m'))
    | other => other
  | other => other

/-- Makes every failure of `p` hard. -/
def cut {α : Type} (p : List Char → Outcome α) (s : List Char) : Outcome α :=
  match p s with
  | .error m => .error m.harden
  | ok => ok

/-! ## §2. Basic pieces -/

/-- Whether a character is an ASCII blank for selectors. -/
def isSpace (c : Char) : Bool := c = ' ' || c = '\t' || c = '\r' || c = '\n'

/-- Skips blanks. -/
def ws (s : List Char) : List Char := s.dropWhile isSpace

/-- One or more blanks. -/
def spaces1 (s : List Char) : Outcome Unit :=
  match s with
  | c :: _ => if isSpace c then .ok (ws s, ()) else unexpected s "Multiple spaces"
  | [] => unexpected s "Multiple spaces"

/-- One given character. -/
def char (c : Char) (s : List Char) : Outcome Char :=
  match s with
  | x :: rest => if x = c then .ok (rest, c) else unexpected s "Char"
  | [] => unexpected s "Char"

/-- One given character, or a hard failure `Expected `c``. -/
def expect (c : Char) (s : List Char) : Outcome Char :=
  match s with
  | x :: rest => if x = c then .ok (rest, c) else stopAt s s!"Expected `{c}`"
  | [] => stopAt s s!"Expected `{c}`"

/-- A given word. -/
def tag (t : String) (s : List Char) : Outcome String :=
  let w := t.toList
  if w.isPrefixOf s then .ok (s.drop w.length, t) else unexpected s "Tag"

/-- One or more characters of a class. -/
def takeWhile1 (p : Char → Bool) (s : List Char) : Outcome String :=
  match s with
  | c :: _ => if p c then .ok (s.dropWhile p, String.ofList (s.takeWhile p)) else unexpected s "TakeWhile1"
  | [] => unexpected s "TakeWhile1"

/-- Everything up to the first occurrence of a character, which stays unread. -/
def takeUntil (c : Char) (s : List Char) : Outcome String :=
  if s.contains c then .ok (s.dropWhile (· ≠ c), String.ofList (s.takeWhile (· ≠ c)))
  else unexpected s "Take until"

/-- Whether a character belongs to an identifier. -/
def isWordChar (c : Char) : Bool := c.isAlphanum || c = '_'

/-- An identifier: ASCII letters, digits and `_`. -/
def identifier (s : List Char) : Outcome String := takeWhile1 isWordChar s

/-- A comma with blanks around it. -/
def comma (s : List Char) : Outcome Char :=
  (char ',' (ws s)).map fun (r, c) => (ws r, c)

/-- One or more items separated by `sep`. A separator not followed by an item
is left unread. -/
def sepBy1 {α β : Type} (sep : List Char → Outcome β) (item : List Char → Outcome α)
    (s : List Char) : Outcome (List α) :=
  match item s with
  | .error e => .error e
  | .ok (r, x) =>
    let rec more : Nat → List Char → List α → Outcome (List α)
      | 0, r, acc => .ok (r, acc.reverse)
      | fuel + 1, r, acc =>
        match sep r with
        | .error (.miss _ _) => .ok (r, acc.reverse)
        | .error e => .error e
        | .ok (r1, _) =>
          if r1.length = r.length then unexpected r1 "Separated list"
          else
            match item r1 with
            | .error (.miss _ _) => .ok (r, acc.reverse)
            | .error e => .error e
            | .ok (r2, y) => more fuel r2 (y :: acc)
    more (r.length + 1) r [x]

/-! ## §3. Attributes -/

/-- Whether a character may stand in an unquoted path segment. -/
def isPathChar (c : Char) : Bool := c.isAlphanum || "_.#$-".contains c

/-- Whether a character may stand in an unquoted value. -/
def isValueChar (c : Char) : Bool := c.isAlphanum || "_.#$-+".contains c

/-- A path segment: `(name)` or a run of path characters. -/
def pathSegment (s : List Char) : Outcome String :=
  orElse
    (fun s =>
      match char '(' s with
      | .error e => .error e
      | .ok (r, _) =>
        match identifier r with
        | .error e => .error e
        | .ok (r2, name) =>
          match char ')' r2 with
          | .error e => .error e
          | .ok (r3, _) => .ok (r3, "(" ++ name ++ ")"))
    (takeWhile1 isPathChar) s

/-- Segments separated by `|`. -/
def path (s : List Char) : Outcome (List String) := sepBy1 (char '|') pathSegment s

/-- Why a path names no attribute of a shape. -/
def pathProblem? (p : List String) : Option String :=
  match p with
  | [] => some "Unknown attribute ``"
  | first :: rest =>
    if first == "id" then
      match rest with
      | [] => none
      | [x] => if x == "namespace" || x == "name" || x == "member" then none
               else some "`id` only supports `namespace`, `name` and `member`"
      | _ => some "`id` only supports `namespace`, `name` and `member`"
    else if first == "service" then
      match rest with
      | [] => none
      | [x] => if x == "version" then none else some "`service` only supports `version`"
      | _ => some "`service` only supports `version`"
    else if first == "trait" then none
    else some s!"Unknown attribute `{first}`"

/-- A path that names an attribute of a shape. -/
def attributePath (s : List Char) : Outcome (List String) :=
  match path s with
  | .ok (r, p) =>
    match pathProblem? p with
    | none => .ok (r, p)
    | some msg => stopAt s msg
  | .error e => .error e

/-- The comparators, longest first. -/
def comparators : List (String × Comparator) :=
  [("!=", .notEquals), ("^=", .startsWith), ("$=", .endsWith), ("*=", .contains),
   ("?=", .isPresent), (">=", .greaterOrEqual), ("<=", .lessOrEqual), ("=", .equals),
   (">", .greater), ("<", .less)]

/-- A comparator. -/
def comparator (s : List Char) : Outcome Comparator :=
  let rec go : List (String × Comparator) → Option Miss → Outcome Comparator
    | [], some m => .error m
    | [], none => unexpected s "Tag"
    | (t, c) :: rest, acc =>
      match tag t s with
      | .ok (r, _) => .ok (r, c)
      | .error m =>
        let acc' := match acc with
          | some a => Miss.further a m
          | none => m
        go rest (some acc')
  go comparators none

/-- The case flag: blanks, `i`, and then (after blanks) `]` or `&&`, left unread. -/
def caseFlag (s : List Char) : Outcome Bool :=
  match spaces1 s with
  | .ok (r, _) =>
    match char 'i' r with
    | .ok (r2, _) =>
      let after := ws r2
      if "]".toList.isPrefixOf after || "&&".toList.isPrefixOf after then .ok (r2, true)
      else .ok (s, false)
    | .error _ => .ok (s, false)
  | .error _ => .ok (s, false)

/-- A quoted value: `"..."` or `'...'`, with no escapes. -/
def quotedWith (q : Char) (s : List Char) : Outcome String :=
  match char q s with
  | .error e => .error e
  | .ok (r, _) =>
    match takeUntil q r with
    | .error e => .error e
    | .ok (r2, text) =>
      match char q r2 with
      | .error e => .error e
      | .ok (r3, _) => .ok (r3, text)

/-- A value: quoted, or a run of value characters. -/
def value (s : List Char) : Outcome String :=
  orElse (orElse (quotedWith '"') (quotedWith '\'')) (takeWhile1 isValueChar) s

/-- `op values [i]` after a path. -/
def comparison (s : List Char) : Outcome Comparison :=
  match comparator (ws s) with
  | .error e => .error e
  | .ok (r, c) =>
    match cut (sepBy1 comma value) (ws r) with
    | .error e => .error e
    | .ok (r2, vs) =>
      match caseFlag r2 with
      | .error e => .error e
      | .ok (r3, ci) => .ok (r3, ⟨c, vs, ci⟩)

/-- `path [comparison]` inside brackets. -/
def attributeFilter (s : List Char) : Outcome Step :=
  match attributePath (ws s) with
  | .error e => .error e
  | .ok (r, p) =>
    match comparison r with
    | .ok (r2, c) => .ok (r2, .attribute p (some c))
    | .error (.miss _ _) => .ok (r, .attribute p none)
    | .error e => .error e

/-- One side of a scoped assertion: `@{path}` or a value. -/
def scopedValue (s : List Char) : Outcome ScopedValue :=
  orElse
    (fun s =>
      match tag "@\x7b" s with
      | .error e => .error e
      | .ok (r, _) =>
        match cut path r with
        | .error e => .error e
        | .ok (r2, p) =>
          match expect '}' r2 with
          | .error e => .error e.harden
          | .ok (r3, _) => .ok (r3, .context p))
    (fun s => (value s).map fun (r, v) => (r, .literal v)) s

/-- `lhs op rhs, ... [i]`. -/
def scopedAssertion (s : List Char) : Outcome ScopedAssertion :=
  match scopedValue s with
  | .error e => .error e
  | .ok (r, lhs) =>
    match comparator (ws r) with
    | .error e => .error e
    | .ok (r2, c) =>
      match sepBy1 comma scopedValue (ws r2) with
      | .error e => .error e
      | .ok (r3, rhs) =>
        match caseFlag r3 with
        | .error e => .error e
        | .ok (r4, ci) => .ok (r4, ⟨lhs, c, rhs, ci⟩)

/-- `&&` with blanks around it. -/
def andSign (s : List Char) : Outcome String :=
  (tag "&&" (ws s)).map fun (r, t) => (ws r, t)

/-- `@ [path] : assertion && ...` inside brackets. -/
def scopedAttribute (s : List Char) : Outcome Step :=
  match char '@' (ws s) with
  | .error e => .error e
  | .ok (r, _) =>
    let scope : Outcome (List String) :=
      match attributePath r with
      | .ok (r1, p) => .ok (r1, p)
      | .error (.miss _ _) => .ok (r, [])
      | .error e => .error e
    match scope with
    | .error e => .error e.harden
    | .ok (r1, p) =>
      match expect ':' (ws r1) with
      | .error e => .error e.harden
      | .ok (r2, _) =>
        match cut (sepBy1 andSign (fun s => scopedAssertion (ws s))) r2 with
        | .error e => .error e
        | .ok (r3, assertions) => .ok (r3, .scoped p assertions)

/-- `[ ... ]`. -/
def bracket (s : List Char) : Outcome Step :=
  match char '[' s with
  | .error e => .error e
  | .ok (r, _) =>
    match orElse scopedAttribute attributeFilter r with
    | .error e => .error e.harden
    | .ok (r2, st) =>
      match expect ']' (ws r2) with
      | .error e => .error e.harden
      | .ok (r3, _) => .ok (r3, st)

/-! ## §4. Types and neighbors -/

/-- A type name or `*`. -/
def shapeType (s : List Char) : Outcome Step :=
  match orElse (tag "*") identifier s with
  | .error e => .error e
  | .ok (r, name) =>
    match TypeFilter.ofName? name with
    | some f => .ok (r, .type f)
    | none => stopAt s s!"Unknown shape type `{name}`"

/-- A relationship label. -/
def relationshipLabel (s : List Char) : Outcome String :=
  match identifier s with
  | .error e => .error e
  | .ok (r, name) =>
    if RelationshipType.isLabel name then .ok (r, name)
    else stopAt s s!"Unknown relationship type `{name}`"

/-- Labels separated by commas, blanks around. -/
def labels (s : List Char) : Outcome (List String) :=
  (sepBy1 comma relationshipLabel (ws s)).map fun (r, ls) => (ws r, ls)

/-- A labelled walk: the opening word, labels, and the closing word. -/
def labelledWalk (opening closing : String) (dir : Direction) (s : List Char) : Outcome Step :=
  match tag opening s with
  | .error e => .error e
  | .ok (r, _) =>
    match cut labels r with
    | .error e => .error e
    | .ok (r2, ls) =>
      match cut (tag closing) r2 with
      | .error e => .error e
      | .ok (r3, _) => .ok (r3, .neighbor dir ls)

/-- A neighbor step. -/
def neighbor (s : List Char) : Outcome Step :=
  let recursive : List Char → Outcome Step := fun s => (tag "~>" s).map fun (r, _) => (r, .recursive)
  let forward : List Char → Outcome Step := fun s => (char '>' s).map fun (r, _) => (r, .neighbor .forward [])
  let reverse : List Char → Outcome Step := fun s => (char '<' s).map fun (r, _) => (r, .neighbor .reverse [])
  orElse (orElse (orElse (orElse recursive (labelledWalk "-[" "]->" .forward))
    (labelledWalk "<-[" "]-" .reverse)) forward) reverse s

/-! ## §5. Selectors and functions -/

/-- The step a function name and its arguments stand for. -/
def functionStep (at_ : List Char) (name : String) (args : List (List Step)) :
    Except Miss Step :=
  if name == "is" || name == "each" then .ok (.is args)
  else if name == "test" then .ok (.test args)
  else if name == "not" then
    match args with
    | [one] => .ok (.not one)
    | _ => .error (.stop at_ ":not accepts exactly one selector")
  else if name == "topdown" then
    match args with
    | [q] => .ok (.topDown q none)
    | [q, d] => .ok (.topDown q (some d))
    | _ => .error (.stop at_ ":topdown accepts one or two selectors")
  else .error (.stop at_ s!"Unknown selector function `:{name}`")

/-- Further steps, until one does not read, each read by `step`. -/
def moreStepsWith (step : List Char → Outcome Step) : Nat → List Char → List Step → Outcome (List Step)
  | 0, r, acc => .ok (r, acc.reverse)
  | fuel + 1, r, acc =>
    match step (ws r) with
    | .error (.miss _ _) => .ok (r, acc.reverse)
    | .error e => .error e
    | .ok (r2, st) =>
      if r2.length = r.length then unexpected r "Many1"
      else moreStepsWith step fuel r2 (st :: acc)

/-- Further arguments after commas, each read by `selector`. -/
def moreArgumentsWith (selector : List Char → Outcome (List Step)) :
    Nat → List Char → List (List Step) → Outcome (List (List Step))
  | 0, r, acc => .ok (r, acc.reverse)
  | fuel + 1, r, acc =>
    match comma r with
    | .error (.miss _ _) => .ok (r, acc.reverse)
    | .error e => .error e
    | .ok (r1, _) =>
      match selector r1 with
      | .error (.miss _ _) => .ok (r, acc.reverse)
      | .error e => .error e
      | .ok (r2, sel) => moreArgumentsWith selector fuel r2 (sel :: acc)

/-- Selectors separated by commas, each read by `selector`. -/
def argumentsWith (selector : List Char → Outcome (List Step)) (s : List Char) :
    Outcome (List (List Step)) :=
  match selector s with
  | .error e => .error e
  | .ok (r, first) => moreArgumentsWith selector (r.length + 1) r [first]

/-- `:name(selector, ...)`, the arguments read by `selector`. -/
def functionWith (selector : List Char → Outcome (List Step)) (s : List Char) : Outcome Step :=
  match char ':' s with
  | .error e => .error e
  | .ok (r, _) =>
    match cut identifier r with
    | .error e => .error e
    | .ok (r1, name) =>
      match expect '(' r1 with
      | .error e => .error e
      | .ok (r2, _) =>
        match argumentsWith selector (ws r2) with
        | .error e => .error e.harden
        | .ok (r3, args) =>
          match expect ')' (ws r3) with
          | .error e => .error e
          | .ok (r4, _) =>
            match functionStep s name args with
            | .ok st => .ok (r4, st)
            | .error e => .error e

/-- One step, the arguments of a function read by `selector`. -/
def stepWith (selector : List Char → Outcome (List Step)) (s : List Char) : Outcome Step :=
  orElse (orElse (orElse neighbor (functionWith selector)) bracket) shapeType s

/-- A selector: one or more steps, each after blanks. `depth` bounds the nesting
of functions: the arguments of a function are read one level down. -/
def steps : Nat → List Char → Outcome (List Step)
  | 0, s => stopAt s "Selector nesting is too deep"
  | depth + 1, s =>
    match stepWith (steps depth) (ws s) with
    | .error e => .error e
    | .ok (r, first) => moreStepsWith (stepWith (steps depth)) (r.length + 1) r [first]

/-! ## §6. Whole expressions -/

/-- Why a text is no selector: the text as given, the byte offset, and what went wrong. -/
structure SyntaxError where
  expression : String
  position : Nat
  message : String
deriving DecidableEq, Repr

/-- `Invalid selector `<text>` at position <n>: <message>`. -/
def SyntaxError.text (e : SyntaxError) : String :=
  s!"Invalid selector `{e.expression}` at position {e.position}: {e.message}"

/-- A parsed selector: its text, blanks around it dropped, and its steps. -/
structure Parsed where
  expression : String
  steps : List Step

/-- The byte size of a character list. -/
def byteSize (cs : List Char) : Nat := cs.foldl (fun n c => n + c.utf8Size) 0

/-- Reads a selector. An expression of blanks only is refused at position 0;
text left after the steps is refused at its first character. -/
def parse (expression : String) : Except SyntaxError Parsed :=
  let chars := expression.toList
  let total := expression.utf8ByteSize
  let position (rest : List Char) : Nat := total - byteSize rest
  if (Text.trimBlank expression).isEmpty then
    .error ⟨expression, 0, "Selector expression is empty"⟩
  else
    match steps (chars.length + 1) chars with
    | .ok (r, st) =>
      match ws r with
      | [] => .ok ⟨Text.trimBlank expression, st⟩
      | c :: rest => .error ⟨expression, position (c :: rest), s!"Unexpected selector input `{c}`"⟩
    | .error e => .error ⟨expression, position e.rest, e.message⟩

/-- The selector `*`, which keeps every shape. -/
def any : Parsed := ⟨"*", [.type .any]⟩

/-- Whether the selector walks `trait` relationships anywhere. -/
def Parsed.usesTraits (s : Parsed) : Bool := stepsUseTraits s.steps

end ShapeKit.Selector
