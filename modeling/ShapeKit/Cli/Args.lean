import ShapeKit.Cli.Output

/-!
# Command-line arguments

The `shape` command line: global options `--format`/`-f` (`text` or `json`) and
`--verbose`/`-v`, and one of the commands `init [PATH]`, `validate [FILES]...
[--severity]`, `select <EXPRESSION> [FILES]...`, `ast [FILES]...` and
`diff <OLD> <NEW>`, plus `help [COMMAND]...`.

Arguments are read left to right. An option's value is checked when the next
recognised argument (or the end) is reached, so an unknown argument is
reported before a bad value given just before it. Every mistake becomes an
`ArgError` whose message is the full text shown to the user: what went wrong,
suggestions, the usage line and a pointer to `--help`. Help and version
requests are `ArgError`s too, of their own kinds, whose text is the help or
version.

Suggestions use the Jaro similarity: a candidate is offered when it is more
than 0.7 similar to what was typed.
-/

namespace ShapeKit.Cli

/-! ## §1. Similarity -/

/-- Marks the first unmarked occurrence of `c` in `b` within `[lo, hi)`. -/
def markMatch (b : List Char) (marks : List Bool) (c : Char) (lo hi : Nat) : Option (List Bool) :=
  let hit := (List.range (min hi b.length)).find? fun j => lo ≤ j && b[j]? == some c && marks[j]? == some false
  hit.map fun j => marks.set j true

/-- The matched characters of `a` against `b` and the marks left on `b`. -/
def jaroMatches (a b : List Char) (range : Nat) : List Char × List Bool :=
  (a.zipIdx.foldl (fun (acc : List Char × List Bool) (c, i) =>
    match markMatch b acc.2 c (i - range) (i + range + 1) with
    | some marks => (acc.1 ++ [c], marks)
    | none => acc) ([], b.map fun _ => false))

/-- Jaro similarity in double precision: `(m/|a| + m/|b| + (m-t)/m) / 3`,
where `m` counts the characters of `a` matched in `b` within the window and
`t` is half the matched characters that come in a different order; 1 for two
empty texts and 0 when only one is empty or nothing matches. The sum is taken
left to right, so the value and its comparisons are those of the usual
floating-point evaluation. -/
def jaro (x y : String) : Float :=
  let a := x.toList
  let b := y.toList
  if a.isEmpty && b.isEmpty then 1
  else if a.isEmpty || b.isEmpty then 0
  else
    let range := max a.length b.length / 2 - 1
    let (ma, marks) := jaroMatches a b range
    let mb := (b.zip marks).filterMap fun (c, m) => if m then some c else none
    let m := ma.length
    if m == 0 then 0
    else
      let t := ((ma.zip mb).filter fun (p, q) => p != q).length / 2
      (m.toFloat / a.length.toFloat + m.toFloat / b.length.toFloat + (m - t).toFloat / m.toFloat) / 3

/-- Whether two texts are similar enough to suggest one for the other: Jaro
similarity above 0.7. -/
def similarEnough (x y : String) : Bool := jaro x y > 0.7

/-- The candidates similar to a text, least similar first, ties in the given
order. -/
def suggestions (typed : String) (candidates : List String) : List String :=
  let close := candidates.filter (similarEnough typed)
  close.mergeSort fun p q => jaro typed p ≤ jaro typed q

/-! ## §2. The command description -/

/-- How an option's value is checked. -/
inductive ValueRule where
  | any
  | oneOf (choices : List String)
  | severity
deriving DecidableEq, Repr

/-- An option or flag. -/
structure OptionSpec where
  id : String
  short : Char
  long : String
  valueName : Option String := none
  help : String
  rule : ValueRule := .any
  order : Nat := 999
deriving Repr

/-- A positional argument. -/
structure PositionalSpec where
  id : String
  valueName : String
  help : String
  required : Bool := false
  many : Bool := false
  default : Option String := none
  nonEmpty : Bool := false
deriving Repr

/-- A command: its name as shown in usage lines, its description, options and
positional arguments. -/
structure CommandSpec where
  name : String
  versionName : String
  about : String
  options : List OptionSpec
  positionals : List PositionalSpec
deriving Repr

/-- `--format`. -/
def formatOption : OptionSpec :=
  { id := "format", short := 'f', long := "format", valueName := some "FORMAT",
    help := "Output format (defaults to the global config, then text)",
    rule := .oneOf ["text", "json"], order := 0 }

/-- `--verbose`. -/
def verboseOption : OptionSpec :=
  { id := "verbose", short := 'v', long := "verbose", help := "Enable verbose output for debugging", order := 1 }

/-- `--help`. -/
def helpOption : OptionSpec := { id := "help", short := 'h', long := "help", help := "Print help" }

/-- `--version`. -/
def versionOption : OptionSpec := { id := "version", short := 'V', long := "version", help := "Print version" }

/-- A command with its own options, then the global ones, then help and version. -/
def subcommand (name about : String) (own : List OptionSpec) (positionals : List PositionalSpec) : CommandSpec :=
  { name := "shape " ++ name, versionName := "shape-" ++ name, about,
    options := own ++ [formatOption, verboseOption, helpOption, versionOption], positionals }

/-- The description of `files`. -/
def filesArg : PositionalSpec :=
  { id := "files", valueName := "FILES", help := "Model files or directories (defaults to the configured sources)",
    many := true, nonEmpty := true }

/-- The commands, in the order help lists them. -/
def commandSpecs : List (String × CommandSpec) :=
  [("init", subcommand "init" "Initialize a new shape project" []
      [{ id := "path", valueName := "PATH", help := "Path to initialize (defaults to current directory)",
         default := some "." }]),
   ("validate", subcommand "validate" "Assemble and validate a model"
      [{ id := "severity", short := 's', long := "severity", valueName := some "SEVERITY",
         help := "Minimum severity to report (note, warning, danger, error)", rule := .severity, order := 0 }]
      [filesArg]),
   ("select", subcommand "select" "Print the shapes matched by a selector" []
      [{ id := "expression", valueName := "EXPRESSION",
         help := "Selector expression, e.g. `structure > member [trait|required]`", required := true },
       filesArg]),
   ("ast", subcommand "ast" "Print the assembled model as a JSON AST" [] [filesArg]),
   ("diff", subcommand "diff" "Compare two versions of a model" []
      [{ id := "old", valueName := "OLD", help := "Old model file or directory", required := true, nonEmpty := true },
       { id := "new", valueName := "NEW", help := "New model file or directory", required := true, nonEmpty := true }])]

/-- The `help` command. -/
def helpCommandSpec : CommandSpec :=
  { name := "shape help", versionName := "shape-help",
    about := "Print this message or the help of the given subcommand(s)", options := [],
    positionals := [{ id := "command", valueName := "COMMAND", help := "Print help for the subcommand(s)",
                      many := true }] }

/-- The top-level command. -/
def topSpec : CommandSpec :=
  { name := "shape", versionName := "shape", about := "Build, validate and query shape models",
    options := [formatOption, verboseOption, helpOption, versionOption], positionals := [] }

/-- The names of all commands, `help` last. -/
def commandNames : List String := commandSpecs.map (·.1) ++ ["help"]

/-- The version of the program. -/
def programVersion : String := "0.1.0"

/-! ## §3. Rendering -/

/-- `--long <VALUE>` or `--long`. -/
def OptionSpec.text (o : OptionSpec) : String :=
  match o.valueName with
  | some v => s!"--{o.long} <{v}>"
  | none => s!"--{o.long}"

/-- `<NAME>` or `[NAME]`, with `...` when it takes many values. -/
def PositionalSpec.display (p : PositionalSpec) (required : Bool) : String :=
  (if required then s!"<{p.valueName}>" else s!"[{p.valueName}]") ++ (if p.many then "..." else "")

/-- The usage line of a command. -/
def CommandSpec.usage (c : CommandSpec) (top : Bool) : String :=
  let opts := if c.options.isEmpty then [] else ["[OPTIONS]"]
  let pos := c.positionals.map fun p => p.display p.required
  " ".intercalate ([c.name] ++ opts ++ pos ++ (if top then ["<COMMAND>"] else []))

/-- The usage line of a command given the arguments used so far: those
options, then every positional argument (required or used ones in `<>`). -/
def CommandSpec.usageWith (c : CommandSpec) (top : Bool) (used : List String) : String :=
  if used.isEmpty then c.usage top
  else
    let opts := used.eraseDups.filterMap fun id => (c.options.find? (·.id == id)).map OptionSpec.text
    let pos := c.positionals.map fun p => p.display (p.required || used.contains p.id)
    " ".intercalate ([c.name] ++ opts ++ pos ++ (if top then ["<COMMAND>"] else []))

/-- Items separated by commas. -/
def commaList (xs : List String) : String := ", ".intercalate xs

/-- Spaces. -/
def spaces (n : Nat) : String := String.ofList (List.replicate n ' ')

/-- The extra facts shown after an argument's help: possible values, default. -/
def OptionSpec.facts (o : OptionSpec) : String :=
  match o.rule with
  | .oneOf vs => s!" [possible values: {commaList vs}]"
  | _ => ""

/-- The key options are listed by within one display rank. -/
def OptionSpec.sortKey (o : OptionSpec) : String :=
  String.ofList [o.short.toLower, if o.short.isLower then '0' else '1']

/-- The `Options:` lines. -/
def optionLines (opts : List OptionSpec) : List String :=
  let sorted := opts.mergeSort fun a b => a.order < b.order || (a.order == b.order && decide (a.sortKey ≤ b.sortKey))
  let longest := sorted.foldl (fun n o => max n (o.text.length + 4)) 2
  sorted.map fun o =>
    s!"  -{o.short}, {o.text}" ++ spaces (longest + 2 - (o.text.length + 4)) ++ o.help ++ o.facts

/-- The `Arguments:` lines. -/
def positionalLines (ps : List PositionalSpec) : List String :=
  let shown := ps.map fun p => (p, p.display p.required)
  let longest := shown.foldl (fun n (_, d) => max n d.length) 2
  shown.map fun (p, d) =>
    let facts := match p.default with
      | some v => s!" [default: {v}]"
      | none => ""
    "  " ++ d ++ spaces (longest + 2 - d.length) ++ p.help ++ facts

/-- The help of a command. -/
def CommandSpec.helpText (c : CommandSpec) (top : Bool) : String :=
  let commands :=
    if top then
      let entries := commandSpecs.map (fun (n, s) => (n, s.about)) ++ [("help", helpCommandSpec.about)]
      let longest := entries.foldl (fun n (k, _) => max n k.length) 0
      ["Commands:\n" ++ "\n".intercalate (entries.map fun (k, a) => "  " ++ k ++ spaces (longest + 2 - k.length) ++ a)]
    else []
  let args := if c.positionals.isEmpty then [] else ["Arguments:\n" ++ "\n".intercalate (positionalLines c.positionals)]
  let opts := if c.options.isEmpty then [] else ["Options:\n" ++ "\n".intercalate (optionLines c.options)]
  "\n\n".intercalate ([c.about, "Usage: " ++ c.usage top] ++ commands ++ args ++ opts) ++ "\n"

/-! ## §4. Errors -/

/-- What kind of stop the arguments lead to. -/
inductive ArgErrorKind where
  | unknownArgument | missingRequiredArgument | invalidValue | valueValidation | invalidSubcommand
  | displayHelp | displayVersion | displayHelpOnMissingArgumentOrSubcommand | missingSubcommand
  | argumentConflict | tooManyValues
deriving DecidableEq, Repr

/-- The name of a kind. -/
def ArgErrorKind.name : ArgErrorKind → String
  | .unknownArgument => "UnknownArgument"
  | .missingRequiredArgument => "MissingRequiredArgument"
  | .invalidValue => "InvalidValue"
  | .valueValidation => "ValueValidation"
  | .invalidSubcommand => "InvalidSubcommand"
  | .displayHelp => "DisplayHelp"
  | .displayVersion => "DisplayVersion"
  | .displayHelpOnMissingArgumentOrSubcommand => "DisplayHelpOnMissingArgumentOrSubcommand"
  | .missingSubcommand => "MissingSubcommand"
  | .argumentConflict => "ArgumentConflict"
  | .tooManyValues => "TooManyValues"

/-- Why the arguments do not make an invocation, with the text to show. -/
structure ArgError where
  kind : ArgErrorKind
  message : String
deriving DecidableEq, Repr

/-- Whether the text goes to standard output with success: help and version. -/
def ArgError.isInformation (e : ArgError) : Bool := e.kind == .displayHelp || e.kind == .displayVersion

/-- An error text: the problem, tips, the usage line and the pointer to help. -/
def errorText (problem : String) (tips : List String) (usage : Option String) : String :=
  let tipText := if tips.isEmpty then "" else "\n" ++ String.join (tips.map fun t => "\n  tip: " ++ t)
  let usageText := match usage with
    | some u => "\n\nUsage: " ++ u
    | none => ""
  "error: " ++ problem ++ tipText ++ usageText ++ "\n\nFor more information, try '--help'.\n"

/-- A tip naming similar candidates. -/
def similarTip (what : String) (found : List String) : List String :=
  match found with
  | [] => []
  | [one] => [s!"a similar {what} exists: '{one}'"]
  | many => [s!"some similar {what}s exist: " ++ ", ".intercalate (many.map fun x => s!"'{x}'")]

/-! ## §5. Reading arguments -/

/-- A command with its arguments. -/
inductive Command where
  | init (path : String)
  | validate (files : List String) (severity : Option Severity)
  | select (expression : String) (files : List String)
  | ast (files : List String)
  | diff (old new : String)

/-- A whole invocation. -/
structure Invocation where
  format : Option Format
  verbose : Bool
  command : Command

/-- The arguments read at one command level: explicit arguments with their
values in order of first use, the argument whose values are not yet checked,
the next positional slot, and whether `--` was seen. -/
structure Level where
  matched : List (String × List String) := []
  pending : Option (String × List String) := none
  slot : Nat := 0
  trailing : Bool := false

/-- Checks one option value. -/
def checkValue (o : OptionSpec) (v : String) : Except ArgError Unit :=
  match o.rule with
  | .any => .ok ()
  | .oneOf vs =>
    if vs.contains v then .ok ()
    else if v.isEmpty then
      .error ⟨.invalidValue, errorText s!"a value is required for '{o.text}' but none was supplied\n  [possible values: {commaList vs}]" [] none⟩
    else
      let similar := (suggestions v vs).getLast?.toList
      .error ⟨.invalidValue, errorText
        s!"invalid value '{v}' for '{o.text}'\n  [possible values: {commaList vs}]"
        (similarTip "value" similar) none⟩
  | .severity =>
    match Severity.parse v with
    | .ok _ => .ok ()
    | .error msg => .error ⟨.valueValidation, errorText s!"invalid value '{v}' for '{o.text}': {msg}" [] none⟩

/-- Checks the values waiting at a level and records them. -/
def resolve (c : CommandSpec) (l : Level) : Except ArgError Level := do
  match l.pending with
  | none => return l
  | some (id, vals) =>
    let l := { l with pending := none }
    match c.options.find? (·.id == id) with
    | some o =>
      match vals with
      | [] =>
        let facts := match o.rule with
          | .oneOf vs => s!"\n  [possible values: {commaList vs}]"
          | _ => ""
        throw ⟨.invalidValue, errorText s!"a value is required for '{o.text}' but none was supplied{facts}" [] none⟩
      | v :: _ =>
        if (l.matched.lookup id).isSome then
          throw ⟨.argumentConflict, errorText s!"the argument '{o.text}' cannot be used multiple times" [] (some (c.usage false))⟩
        checkValue o v
        return { l with matched := l.matched ++ [(id, [v])] }
    | none =>
      match c.positionals.find? (·.id == id) with
      | some p =>
        if p.nonEmpty && vals.any (·.isEmpty) then
          throw ⟨.invalidValue, errorText s!"a value is required for '{p.display p.required}' but none was supplied" [] none⟩
        match l.matched.lookup id with
        | some old => return { l with matched := l.matched.map fun (k, v) => if k == id then (k, old ++ vals) else (k, v) }
        | none => return { l with matched := l.matched ++ [(id, vals)] }
      | none => return l

/-- Checks the waiting values before reporting a problem with another
argument. A failure is not reported, but a value that was given still makes
its argument count as used. -/
def settle (c : CommandSpec) (l : Level) : Level :=
  match resolve c l with
  | .ok l' => l'
  | .error _ =>
    match l.pending with
    | some (id, vals@(_ :: _)) =>
      if (l.matched.lookup id).isSome then { l with pending := none }
      else { l with pending := none, matched := l.matched ++ [(id, vals)] }
    | _ => { l with pending := none }

/-- The ids of explicit arguments in order of first use. -/
def Level.used (l : Level) : List String := l.matched.map (·.1)

/-- What reading one level ends with: the level, and at the top the command
named with the arguments after it. -/
structure LevelEnd where
  level : Level
  command : Option (String × List String) := none

/-- An unknown `--long` argument. -/
def unknownLong (c : CommandSpec) (top : Bool) (l : Level) (name : String) (rest : List String) : ArgError :=
  let longs := c.options.map (·.long)
  let direct := (suggestions name longs).getLast?
  let viaCommand : Option (String × String) :=
    if direct.isSome || !top then none
    else
      let found := commandSpecs.filterMap fun (cmd, spec) =>
        ((suggestions name (spec.options.map (·.long))).getLast?).bind fun cand =>
          (rest.idxOf? cmd).map fun pos => (pos, cand, cmd)
      (found.foldl (fun (best : Option (Nat × String × String)) x =>
        match best with
        | some b => if x.1 < b.1 then some x else best
        | none => some x) none).map fun (_, cand, cmd) => (cand, cmd)
  let used := match direct with
    | some d => match c.options.find? (·.long == d) with
      | some o => if l.used.contains o.id then l.used else l.used ++ [o.id]
      | none => l.used
    | none => l.used
  let tips :=
    match direct, viaCommand with
    | some d, _ => [s!"a similar argument exists: '--{d}'"]
    | none, some (cand, cmd) => [s!"'{cmd} --{cand}' exists"]
    | none, none =>
      if !l.trailing && !c.positionals.isEmpty then [s!"to pass '--{name}' as a value, use '-- --{name}'"] else []
  ⟨.unknownArgument, errorText s!"unexpected argument '--{name}' found" tips (some (c.usageWith top used))⟩

/-- A positional argument with no slot left. -/
def unplaced (c : CommandSpec) (top : Bool) (l : Level) (arg : String) : ArgError :=
  let flagLike := arg.startsWith "-" && arg.length > 1
  let suggestTrailing := !l.trailing && !c.positionals.isEmpty && flagLike
  if top then
    if l.trailing && commandNames.contains arg then
      ⟨.unknownArgument, errorText s!"unexpected argument '{arg}' found"
        [s!"subcommand '{arg}' exists; to use it, remove the '--' before it"] (some (c.usage top))⟩
    else
      let similar := suggestions arg commandNames
      if !similar.isEmpty then
        ⟨.invalidSubcommand, errorText s!"unrecognized subcommand '{arg}'" (similarTip "subcommand" similar)
          (some (c.usage top))⟩
      else ⟨.invalidSubcommand, errorText s!"unrecognized subcommand '{arg}'" [] (some (c.usage top))⟩
  else
    let tips := if suggestTrailing then [s!"to pass '{arg}' as a value, use '-- {arg}'"] else []
    ⟨.unknownArgument, errorText s!"unexpected argument '{arg}' found" tips (some (c.usage top))⟩

/-- Reacts to a recognised option or flag. -/
def takeOption (c : CommandSpec) (top : Bool) (l : Level) (o : OptionSpec) (attached : Option String)
    (shortForm : Bool) : Except ArgError Level := do
  if let (none, some v, false) := (o.valueName, attached, shortForm) then
    throw ⟨.tooManyValues, errorText s!"unexpected value '{v}' for '{o.text}' found; no more were expected" []
      (some (c.usageWith top (l.used ++ [o.id])))⟩
  let l ← resolve c l
  match o.valueName with
  | some _ =>
    match attached with
    | some v => resolve c { l with pending := some (o.id, [v]) }
    | none => return { l with pending := some (o.id, []) }
  | none =>
    if o.id == "help" then throw ⟨.displayHelp, c.helpText top⟩
    if o.id == "version" then throw ⟨.displayVersion, s!"{c.versionName} {programVersion}\n"⟩
    if (l.matched.lookup o.id).isSome then
      throw ⟨.argumentConflict, errorText s!"the argument '{o.text}' cannot be used multiple times" [] (some (c.usage top))⟩
    return { l with matched := l.matched ++ [(o.id, ["true"])] }

/-- Reads a cluster of short flags such as `-vf json` or `-fjson`. -/
def takeShorts (c : CommandSpec) (top : Bool) : Level → List Char → Except ArgError Level
  | l, [] => .ok l
  | l, ch :: rest =>
    match c.options.find? (·.short == ch) with
    | none =>
      let suggestTrailing := !l.trailing && !c.positionals.isEmpty
      .error ⟨.unknownArgument, errorText s!"unexpected argument '-{ch}' found"
        (if suggestTrailing then [s!"to pass '-{ch}' as a value, use '-- -{ch}'"] else []) (some (c.usage top))⟩
    | some o =>
      match o.valueName with
      | some _ =>
        let attached := match rest with
          | [] => none
          | '=' :: v => some (String.ofList v)
          | v => some (String.ofList v)
        takeOption c top l o attached true
      | none => do
        let l ← takeOption c top l o none true
        takeShorts c top l rest

/-- Adds a positional value: to the waiting values of the same many-valued
argument, or as new waiting values after checking the old ones. -/
def placePositional (c : CommandSpec) (l : Level) (p : PositionalSpec) (arg : String) : Except ArgError Level :=
  match l.pending with
  | some (id, vals) =>
    if id == p.id && p.many then .ok { l with pending := some (id, vals ++ [arg]) }
    else do
      let l ← resolve c l
      return { l with pending := some (p.id, [arg]) }
  | none => .ok { l with pending := some (p.id, [arg]) }

/-- Reads the arguments of one level; at the top, stops at the command name. -/
def readLevel (c : CommandSpec) (top : Bool) : Level → List String → Except ArgError LevelEnd
  | l, [] => .ok ⟨l, none⟩
  | l, arg :: rest =>
    let awaiting := match l.pending with
      | some (id, []) => (c.options.find? fun (o : OptionSpec) => o.id == id).isSome
      | _ => false
    if top && !l.trailing && commandNames.contains arg then .ok ⟨l, some (arg, rest)⟩
    else if !l.trailing && arg == "--" then do
      let l ← resolve c l
      readLevel c top { l with trailing := true } rest
    else if !l.trailing && arg.startsWith "--" then do
      let body := (arg.drop 2).toString
      let (name, attached) := match body.splitOn "=" with
        | n :: v :: more => (n, some ("=".intercalate (v :: more)))
        | _ => (body, none)
      match c.options.find? (·.long == name) with
      | some o =>
        let l ← takeOption c top l o attached false
        readLevel c top l rest
      | none => .error (unknownLong c top (settle c l) name rest)
    else if !l.trailing && arg.startsWith "-" && arg.length > 1 then do
      let l ← takeShorts c top l (arg.toList.drop 1)
      readLevel c top l rest
    else if awaiting then
      match l.pending with
      | some (id, _) => readLevel c top { l with pending := some (id, [arg]) } rest
      | none => readLevel c top l rest
    else
      match c.positionals[l.slot]? with
      | none => .error (unplaced c top (settle c l) arg)
      | some p => do
        let l ← placePositional c l p arg
        let l := if p.many then l else { l with slot := l.slot + 1 }
        readLevel c top l rest

/-- Finishes a level: checks waiting values and required arguments. -/
def finishLevel (c : CommandSpec) (top : Bool) (l : Level) : Except ArgError Level := do
  let l ← resolve c l
  let missing := c.positionals.filter fun p => p.required && (l.matched.lookup p.id).isNone
  if !missing.isEmpty then
    let lines := String.join (missing.map fun p => "\n  " ++ p.display true)
    throw ⟨.missingRequiredArgument, errorText ("the following required arguments were not provided:" ++ lines) []
      (some (c.usageWith top (l.used ++ missing.map (·.id))))⟩
  return l

/-- The value of an option at a level. -/
def Level.value (l : Level) (id : String) : Option String := (l.matched.lookup id).bind List.head?

/-- The values of a positional argument, or its default. -/
def Level.values (l : Level) (c : CommandSpec) (id : String) : List String :=
  match l.matched.lookup id with
  | some vs => vs
  | none => ((c.positionals.find? (·.id == id)).bind (·.default)).toList

/-- The help shown by `help [COMMAND]...`. -/
def helpFor : List String → ArgError
  | [] => ⟨.displayHelp, topSpec.helpText true⟩
  | name :: rest =>
    match name, (commandSpecs.lookup name) with
    | "help", _ =>
      match rest with
      | [] => ⟨.displayHelp, helpCommandSpec.helpText false⟩
      | x :: _ => ⟨.invalidSubcommand, errorText s!"unrecognized subcommand '{x}'" [] (some (helpCommandSpec.usage false))⟩
    | _, some spec =>
      match rest with
      | [] => ⟨.displayHelp, spec.helpText false⟩
      | x :: _ => ⟨.invalidSubcommand, errorText s!"unrecognized subcommand '{x}'" [] (some (spec.usage false))⟩
    | _, none => ⟨.invalidSubcommand, errorText s!"unrecognized subcommand '{name}'" [] (some (topSpec.usage true))⟩

/-- Builds the command from its level. -/
def commandOf (name : String) (c : CommandSpec) (l : Level) : Command :=
  let first (id : String) : String := ((l.values c id).head?).getD ""
  match name with
  | "init" => .init (first "path")
  | "validate" => .validate (l.values c "files") ((l.value "severity").bind fun s => (Severity.parse s).toOption)
  | "select" => .select (first "expression") (l.values c "files")
  | "ast" => .ast (l.values c "files")
  | _ => .diff (first "old") (first "new")

/-- Reads the arguments after the program name. -/
def parseArgs (args : List String) : Except ArgError Invocation := do
  if args.isEmpty then throw ⟨.displayHelpOnMissingArgumentOrSubcommand, topSpec.helpText true⟩
  let e ← readLevel topSpec true {} args
  match e.command with
  | none =>
    let l ← resolve topSpec e.level
    if l.matched.isEmpty then throw ⟨.displayHelpOnMissingArgumentOrSubcommand, topSpec.helpText true⟩
    throw ⟨.missingSubcommand, errorText
      s!"'shape' requires a subcommand but one was not provided\n  [subcommands: {commaList commandNames}]" []
      (some (topSpec.usage true))⟩
  | some ("help", rest) => throw (helpFor rest)
  | some (name, rest) =>
    let spec := (commandSpecs.lookup name).getD topSpec
    let se ← readLevel spec false {} rest
    let sub ← finishLevel spec false se.level
    let top ← resolve topSpec e.level
    let format := (sub.value "format").orElse fun _ => top.value "format"
    return { format := format.map fun f => if f == "json" then .json else .text,
             verbose := (top.value "verbose").isSome || (sub.value "verbose").isSome,
             command := commandOf name spec sub }

end ShapeKit.Cli
