import ShapeKit.Toml.Error

/-!
# Reading with retry and commitment

A reader walks a text of characters. When it fails it says where the input
was left, and whether the failure is *final*: a failure that is not final lets
an enclosing choice try another reading from where the failed one started,
while a final one ends all reading. A reading commits (`cut`) once it has seen
enough to know that nothing else can start here.

On its way out a failure collects what was being read (`labelled`) and what
was expected (`expecting`); a failure can also carry the cause of a value that
was read but refused. Its message is `invalid <innermost label>`, then
`expected <all expectations>`, then the cause, each on a line of its own.

Most readings leave the position where they failed; a few report a failure
where they started (`fromStart`), because what they refuse is everything they
read. Choices and repetitions restore the position before trying again.
-/

namespace ShapeKit.Toml

/-- Why reading stopped: the position where the input was left, whether the
failure is final, the names of what was being read (innermost first), what was
expected there, and the cause of a refused value. -/
structure Failure where
  pos : Nat
  final : Bool := false
  labels : List String := []
  expected : List String := []
  cause : Option String := none

namespace Failure

/-- The message of a failure. -/
def message (f : Failure) : String :=
  "\n".intercalate ((f.labels.head?.map fun l => "invalid " ++ l).toList ++
    (if f.expected.isEmpty then [] else ["expected " ++ ", ".intercalate f.expected]) ++
    f.cause.toList)

/-- The error of a failure in a text of `length` characters: its span is the
character where reading stopped, and empty at the end of the text. -/
def toError (f : Failure) (length : Nat) : Error :=
  ⟨f.message, some ⟨f.pos, if f.pos < length then f.pos + 1 else f.pos⟩⟩

end Failure

/-- Reading a text: the characters, the position reached, and failure. -/
abbrev Reader := ReaderT (Array Char) (StateT Nat (Except Failure))

/-- The position reached. -/
def here : Reader Nat := get

/-- The character `k` places after the position, if any. -/
def peekAt (k : Nat) : Reader (Option Char) := do return (← read)[(← get) + k]?

/-- The next character, if any. -/
def peek : Reader (Option Char) := peekAt 0

/-- Moves past `n` characters. -/
def advance (n : Nat) : Reader Unit := modify (· + n)

/-- Moves to a position. -/
def moveTo (p : Nat) : Reader Unit := set p

/-- The text from a position up to the position reached. -/
def textFrom (start : Nat) : Reader String := do
  return String.ofList ((← read).extract start (← here)).toList

/-- Fails at a position, with a cause if given; another reading may be tried. -/
def failAt {α : Type} (pos : Nat) (cause : Option String) : Reader α :=
  throw { pos, cause }

/-- Fails here; another reading may be tried. -/
def back {α : Type} : Reader α := do failAt (← here) none

/-- Makes the failures of a reading final. -/
def cut {α : Type} (r : Reader α) : Reader α :=
  tryCatch r fun f => throw { f with final := true }

/-- Names what a reading reads, for its failures. -/
def labelled {α : Type} (l : String) (r : Reader α) : Reader α :=
  tryCatch r fun f => throw { f with labels := f.labels ++ [l] }

/-- Adds to what the failures of a reading say was expected. -/
def expecting {α : Type} (es : List String) (r : Reader α) : Reader α :=
  tryCatch r fun f => throw { f with expected := f.expected ++ es }

/-- Reports a failure of a reading where the reading started. -/
def fromStart {α : Type} (r : Reader α) : Reader α := do
  let start ← here
  tryCatch r fun f => throw { f with pos := start }

/-- Tries a reading: none, with the position restored, when it fails and the
failure is not final. -/
def attempt {α : Type} (r : Reader α) : Reader (Option α) :=
  tryCatch (some <$> r) fun f => if f.final then throw f else pure none

/-- The first reading, or the second from the same place when the first
fails and the failure is not final. -/
def orElse {α : Type} (r s : Reader α) : Reader α :=
  tryCatch r fun f => if f.final then throw f else s

/-- Runs a reading and comes back to where it started. -/
def lookAhead {α : Type} (r : Reader α) : Reader α := fromStart do
  let start ← here
  let a ← r
  moveTo start
  return a

/-- Repeats a reading until it fails without finality or stops moving, for at
most `fuel` rounds. -/
def manyFuel {α : Type} (r : Reader α) : Nat → Reader (List α)
  | 0 => pure []
  | fuel + 1 => do
    let start ← here
    match ← attempt r with
    | some a =>
      if (← here) == start then return [a]
      else return a :: (← manyFuel r fuel)
    | none => return []

/-- Repeats a reading as long as it succeeds and moves. -/
def many {α : Type} (r : Reader α) : Reader (List α) := do
  manyFuel r ((← read).size + 1)

/-- One reading or more, separated by a separator; a separator that is not
followed by a reading is left unread. -/
def sepBy1 {α : Type} (r : Reader α) (sep : Reader Unit) : Reader (List α) := do
  let first ← r
  let rest ← many (do sep; r)
  return first :: rest

/-- Reads a character that passes a test. -/
def satisfy (ok : Char → Bool) : Reader Char := do
  match ← peek with
  | some c => if ok c then do advance 1; return c else back
  | none => back

/-- Reads a given character. -/
def char (c : Char) : Reader Unit := do
  let _ ← satisfy (· == c)

/-- Reads a given text. -/
def literal (s : String) : Reader Unit := do
  let t ← read
  let i ← here
  if (t.extract i (i + s.length)).toList == s.toList then advance s.length else back

/-- The end of the run of characters from `i` that pass a test. -/
def runEnd (t : Array Char) (ok : Char → Bool) : Nat → Nat → Nat
  | 0, i => i
  | fuel + 1, i =>
    match t[i]? with
    | some c => if ok c then runEnd t ok fuel (i + 1) else i
    | none => i

/-- Reads the characters that pass a test, at most `n` of them. -/
def takeAtMost (n : Nat) (ok : Char → Bool) : Reader (List Char) := do
  let t ← read
  let i ← here
  let j := runEnd t ok n i
  moveTo j
  return (t.extract i j).toList

/-- Reads the characters that pass a test. -/
def takeWhile (ok : Char → Bool) : Reader (List Char) := do
  takeAtMost (← read).size ok

/-- Reads one character that passes a test, or more. -/
def takeWhile1 (ok : Char → Bool) : Reader (List Char) := do
  let cs ← takeWhile ok
  if cs.isEmpty then back else return cs

/-- Reads between `lo` and `hi` characters that pass a test, as many as there
are up to `hi`; fewer than `lo` is a failure where it started. -/
def takeBetween (lo hi : Nat) (ok : Char → Bool) : Reader (List Char) := do
  let start ← here
  let cs ← takeAtMost hi ok
  if cs.length < lo then failAt start none else return cs

/-- The end of the text. -/
def eof : Reader Unit := do
  if (← peek).isSome then back

/-- Runs a reader over a text from its start. -/
def Reader.runOn {α : Type} (r : Reader α) (text : Array Char) : Except Failure α :=
  match (r text) 0 with
  | .ok (a, _) => .ok a
  | .error f => .error f

end ShapeKit.Toml
