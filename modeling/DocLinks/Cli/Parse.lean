import DocLinks.Cli.Grammar
import DocLinks.Text.Jaro

/-!
Reading a command line against a program's grammar. The first word names a subcommand, or is
one of the program's own switches; the words after a subcommand are its arguments.

Words are read left to right. After `--` every word is a positional value. A word starting with
`--` is a long switch, with its value after `=` if it takes one; a word starting with `-` is a
cluster of short switches, the first that takes a value taking the rest of the word (less a
leading `=`) or, if nothing is left, the next word. Any other word is the value a switch waits
for, or the next positional value.

An argument is recorded when the next argument is met or the line ends, so a value that is
missing or empty is found out then: an argument may be given once, a switch or a positional
value that takes a value needs one, and an empty one is refused. A help or version switch stops
reading at once, once what is pending is recorded. At the end every required positional value
must be there.

Reading stops with a page to show (help, version) or an error, each with its exact text.
-/

namespace DocLinks.Cli

/-- Why reading a command line stopped, named as command-line errors are conventionally named. -/
inductive StopKind where
  | displayHelp
  | displayVersion
  | displayHelpOnMissingArgumentOrSubcommand
  | unknownArgument
  | invalidSubcommand
  | invalidValue
  | tooManyValues
  | argumentConflict
  | missingRequiredArgument
  deriving DecidableEq, Repr

/-- The conventional name of a kind of stop. -/
def StopKind.name : StopKind → String
  | .displayHelp => "DisplayHelp"
  | .displayVersion => "DisplayVersion"
  | .displayHelpOnMissingArgumentOrSubcommand => "DisplayHelpOnMissingArgumentOrSubcommand"
  | .unknownArgument => "UnknownArgument"
  | .invalidSubcommand => "InvalidSubcommand"
  | .invalidValue => "InvalidValue"
  | .tooManyValues => "TooManyValues"
  | .argumentConflict => "ArgumentConflict"
  | .missingRequiredArgument => "MissingRequiredArgument"

/-- A command line that was not read through: the kind of stop and the text to show. -/
structure Stop where
  kind : StopKind
  text : String
  deriving Repr

namespace Stop

/-- Whether the user asked for the text: help and version pages go to standard output and end
the program successfully; everything else is an error. -/
def requested (s : Stop) : Bool :=
  s.kind == .displayHelp || s.kind == .displayVersion

/-- The exit status: `0` for a page asked for, `2` otherwise. -/
def exitCode (s : Stop) : Nat := if s.requested then 0 else 2

end Stop

/-- The text of an error: the message, its tips, the usage line if there is one, and, when the
command has a help switch, where to look for more. -/
def errorText (message : String) (tips : List String) (usage : Option String) (pointer : Bool) :
    String :=
  "error: " ++ message ++
    (if tips.isEmpty then "" else "\n\n" ++ "\n".intercalate (tips.map ("  tip: " ++ ·))) ++
    (match usage with
      | some u => "\n\nUsage: " ++ u
      | none => "") ++
    (if pointer then "\n\nFor more information, try '--help'.\n" else "\n")

/-- An error stop of a command, pointing to its help switch if it has one. -/
def failure (c : Command) (kind : StopKind) (message : String) (tips : List String)
    (usage : Option String) : Stop :=
  { kind, text := errorText message tips usage c.hasHelp }

/-- The tip naming subcommands like a word that is none. -/
def similarCommands : List String → String
  | [c] => "a similar subcommand exists: '" ++ c ++ "'"
  | cs => "some similar subcommands exist: " ++ ", ".intercalate (cs.map fun c => "'" ++ c ++ "'")

/-- The tip for a word that looks like a switch but could be meant as a value. -/
def escapeTip (word : String) : String :=
  "to pass '" ++ word ++ "' as a value, use '-- " ++ word ++ "'"

/-- The error for an argument that needs a value and got none, or an empty one. -/
def emptyValue (c : Command) (a : Arg) : Stop :=
  failure c .invalidValue ("a value is required for '" ++ a.display ++ "' but none was supplied") [] none

/-- The arguments a command line gave, each with its values, in the order first given. -/
structure Matches where
  given : List (String × List String) := []
  deriving Repr

namespace Matches

/-- Whether an argument was given. -/
def has (m : Matches) (id : String) : Bool := m.given.any (·.1 == id)

/-- The value an argument was given. -/
def value (m : Matches) (id : String) : Option String := (m.given.lookup id).bind List.head?

/-- The ids of the arguments given, in order. -/
def ids (m : Matches) : List String := m.given.map (·.1)

/-- Forgets an argument. -/
def erase (m : Matches) (id : String) : Matches := { given := m.given.filter (·.1 != id) }

end Matches

/-- A command being read, with what its pages and errors need. -/
structure Scope where
  command : Command
  /-- The full usage line. -/
  usage : String
  /-- The usage line fitted to the arguments used. -/
  usageWith : List String → String
  page : String
  version : String := ""
  /-- Subcommands whose switches a misspelt long switch may be meant for. -/
  subcommands : List Command := []

/-- The scope of a subcommand. -/
def Command.scope (c : Command) : Scope :=
  { command := c, usage := c.usage, usageWith := c.usageWith, page := c.helpPage }

/-- The scope of the program's own switches. -/
def Program.scope (p : Program) : Scope :=
  { command := p.root, usage := p.usage, usageWith := p.usageWith, page := p.helpPage,
    version := p.versionLine, subcommands := p.subcommands }

/-- The state of reading a command's arguments. -/
structure Reading where
  found : Matches := {}
  /-- An argument still collecting values, with those collected. -/
  pending : Option (Arg × List String) := none
  /-- Whether the next plain word is the value of the pending switch. -/
  awaiting : Bool := false
  /-- How many positional values were taken. -/
  position : Nat := 0
  /-- Whether a `--` was met: every later word is a positional value. -/
  escaped : Bool := false
  /-- The groups of the arguments recorded so far, in the order first met. -/
  groups : List String := []

/-- Reading a command's arguments. A stop keeps the state as it was when reading stopped, so
that a stop passed over leaves behind what was recorded before it. -/
abbrev Parse := EStateM Stop Reading

/-- Records an argument with its values, or stops. A help or version switch shows its page; an
argument that takes a value needs one. An argument given a second time is forgotten, and
reading stops. Otherwise the argument and its groups are recorded, and only then is an empty
value refused. -/
def record (sc : Scope) (a : Arg) (vals : List String) : Parse Unit := do
  let takes ← match a with
    | .switch s =>
      match s.action with
      | .help => throw ⟨.displayHelp, sc.page⟩
      | .version => throw ⟨.displayVersion, sc.version⟩
      | .flag => pure false
      | .value _ => pure true
    | .positional _ => pure true
  if takes && vals.isEmpty then throw (emptyValue sc.command a)
  let r ← get
  if r.found.has a.id then
    set { r with found := r.found.erase a.id }
    throw (failure sc.command .argumentConflict
      ("the argument '" ++ a.display ++ "' cannot be used multiple times") [] (some sc.usage))
  set { r with found := { given := r.found.given ++ [(a.id, vals)] },
               groups := r.groups ++ (sc.command.groupsOf a.id).filter (!r.groups.contains ·) }
  if vals.contains "" then throw (emptyValue sc.command a)

/-- Records the pending argument, if there is one. -/
def settle (sc : Scope) : Parse Unit := do
  match (← get).pending with
  | none => pure ()
  | some (a, vals) =>
    modify fun r => { r with pending := none }
    record sc a vals

/-- Records the pending argument if it can be; if not, drops it without a word. -/
def settleQuietly (sc : Scope) : Parse Unit := fun r =>
  match settle sc r with
  | .ok () r' => .ok () r'
  | .error _ r' => .ok () r'

/-- Records the pending argument, then this one. -/
def react (sc : Scope) (a : Arg) (vals : List String) : Parse Unit := do
  settle sc
  record sc a vals
  modify fun r => { r with awaiting := false }

/-- Waits for a switch's value in the next word. -/
def await (sc : Scope) (s : Switch) : Parse Unit := do
  settle sc
  modify fun r => { r with pending := some (.switch s, []), awaiting := true }

/-- The usage line for a command line that used these arguments: the full one when none. -/
def usageFor (sc : Scope) (used : List String) : String :=
  if used.isEmpty then sc.usage else sc.usageWith used

/-- A subcommand with a switch like a misspelt long one, and that switch, when the subcommand's
name is among the words left; the one named first wins. -/
def elsewhere (sc : Scope) (name : String) (rest : List String) : Option (String × String) :=
  let found := sc.subcommands.filterMap fun c =>
    match (Text.suggestions name c.longs).getLast?, rest.idxOf? c.name with
    | some l, some i => some (i, c.name, l)
    | _, _ => none
  (found.foldl (fun best x =>
    match best with
    | some b => if x.1 < b.1 then some x else some b
    | none => some x) none).map (·.2)

/-- Stops at a long switch the command does not have. -/
def unknownLong (sc : Scope) (name : String) (rest : List String) : Parse Unit := do
  settleQuietly sc
  let r ← get
  let word := "--" ++ name
  let message := "unexpected argument '" ++ word ++ "' found"
  let used := r.found.ids
  match (Text.suggestions name sc.command.longs).getLast? with
  | some best =>
    let id := ((sc.command.findLong best).map (·.id)).getD best
    let used := if used.contains id then used else used ++ [id]
    throw (failure sc.command .unknownArgument message ["a similar argument exists: '--" ++ best ++ "'"]
      (some (usageFor sc used)))
  | none =>
    let other := elsewhere sc name rest
    let escape := other.isNone && !r.escaped && !sc.command.positionals.isEmpty
    let tips := (if escape then [escapeTip word] else []) ++
      (other.map fun (c, l) => "'" ++ c ++ " --" ++ l ++ "' exists").toList
    throw (failure sc.command .unknownArgument message tips (some (usageFor sc used)))

/-- Stops at a short switch the command does not have. -/
def unknownShort (sc : Scope) (c : Char) : Parse Unit := do
  settleQuietly sc
  let word := "-" ++ c.toString
  let tips := if sc.command.positionals.isEmpty then [] else [escapeTip word]
  throw (failure sc.command .unknownArgument ("unexpected argument '" ++ word ++ "' found") tips (some sc.usage))

/-- Reads a long switch, with the value written after `=` if there was one. -/
def long (sc : Scope) (name : String) (value : Option String) (rest : List String) : Parse Unit := do
  match sc.command.findLong name with
  | none => unknownLong sc name rest
  | some s =>
    match s.takesValue, value with
    | true, some v => react sc (.switch s) [v]
    | true, none => await sc s
    | false, none => react sc (.switch s) []
    | false, some v =>
      let r ← get
      let required := (sc.command.positionals.filter (·.required)).map (·.id)
      let used := r.found.ids.filter (!required.contains ·) ++ r.groups ++ [s.id]
      throw (failure sc.command .tooManyValues
        ("unexpected value '" ++ v ++ "' for '" ++ s.display ++ "' found; no more were expected")
        [] (some (sc.usageWith used)))

/-- Reads a cluster of short switches. -/
def short (sc : Scope) : List Char → Parse Unit
  | [] => pure ()
  | c :: more =>
    match sc.command.findShort c with
    | none => unknownShort sc c
    | some s =>
      if s.takesValue then
        match more with
        | [] => await sc s
        | '=' :: v => react sc (.switch s) [String.ofList v]
        | v => react sc (.switch s) [String.ofList v]
      else do
        react sc (.switch s) []
        short sc more

/-- Takes a plain word as the next positional value, or stops if the command takes no more. -/
def positional (sc : Scope) (word : String) : Parse Unit := do
  let r ← get
  match sc.command.positionals[r.position]? with
  | some p =>
    settle sc
    modify fun r => { r with pending := some (.positional p, [word]), position := r.position + 1,
                             awaiting := false }
  | none =>
    settleQuietly sc
    throw (failure sc.command .unknownArgument ("unexpected argument '" ++ word ++ "' found") [] (some sc.usage))

/-- The name of a long switch and the value after its `=`. -/
def splitAtEquals : List Char → List Char × Option (List Char)
  | [] => ([], none)
  | '=' :: rest => ([], some rest)
  | c :: rest =>
    let (a, b) := splitAtEquals rest
    (c :: a, b)

/-- Whether a word is a long switch. -/
def isLong (w : String) : Bool := w.startsWith "--" && w != "--"

/-- Whether a word is a cluster of short switches. -/
def isShort (w : String) : Bool := w.startsWith "-" && !w.startsWith "--" && w.length > 1

/-- Reads one word that is a switch, or stops. -/
def switchWord (sc : Scope) (w : String) (rest : List String) : Parse Unit :=
  if isLong w then
    let (name, value) := splitAtEquals (w.toList.drop 2)
    long sc (String.ofList name) (value.map String.ofList) rest
  else short sc (w.toList.drop 1)

/-- The checks at the end of a command line: what is pending is recorded, and every required
positional value must be there. -/
def finish (sc : Scope) : Parse Unit := do
  settle sc
  let r ← get
  let missing := sc.command.positionals.filter fun p => p.required && !r.found.has p.id
  if !missing.isEmpty then
    throw (failure sc.command .missingRequiredArgument
      ("the following required arguments were not provided:" ++
        String.join (missing.map ("\n  " ++ ·.display)))
      [] (some (sc.usageWith (r.found.ids ++ missing.map (·.id)))))

/-- Reads a command's words. -/
def readWords (sc : Scope) : List String → Parse Unit
  | [] => finish sc
  | w :: rest => do
    let r ← get
    if r.escaped then positional sc w
    else if w == "--" then modify fun r => { r with escaped := true }
    else if isLong w || isShort w then switchWord sc w rest
    else if r.awaiting then
      modify fun r => { r with pending := r.pending.map (fun (a, vs) => (a, vs ++ [w])), awaiting := false }
    else positional sc w
    readWords sc rest

namespace Program

/-- The page for `help` followed by subcommand names. -/
def helpTopic (p : Program) : List String → Stop
  | [] => ⟨.displayHelp, p.helpPage⟩
  | w :: ws =>
    match p.find w with
    | none => failure p.root .invalidSubcommand ("unrecognized subcommand '" ++ w ++ "'") [] (some p.usage)
    | some c =>
      match ws with
      | [] => ⟨.displayHelp, c.helpPage⟩
      | v :: _ => failure c .invalidSubcommand ("unrecognized subcommand '" ++ v ++ "'") [] (some c.usage)

/-- The stop at a word that is no subcommand. -/
def strayWord (p : Program) (escaped : Bool) (w : String) : Stop :=
  if escaped && (p.find w).isSome then
    failure p.root .unknownArgument ("unexpected argument '" ++ w ++ "' found")
      ["subcommand '" ++ w ++ "' exists; to use it, remove the '--' before it"] (some p.usage)
  else
    let similar := Text.suggestions w (p.subcommands.map (·.name))
    failure p.root .invalidSubcommand ("unrecognized subcommand '" ++ w ++ "'")
      (if similar.isEmpty then [] else [similarCommands similar]) (some p.usage)

/-- Reads the words before the subcommand: answers the subcommand and the words after it. -/
def readHead (p : Program) (escaped : Bool) : List String → Except Stop (Command × List String)
  | [] => .error ⟨.displayHelpOnMissingArgumentOrSubcommand, p.helpPage⟩
  | w :: rest =>
    if escaped then .error (p.strayWord true w)
    else if w == "help" then .error (p.helpTopic rest)
    else
      match p.commands.find? (·.name == w) with
      | some c => .ok (c, rest)
      | none =>
        if w == "--" then p.readHead true rest
        else if isLong w || isShort w then
          match switchWord p.scope w rest {} with
          | .error e _ => .error e
          | .ok () _ => p.readHead escaped rest
        else .error (p.strayWord false w)

/-- Reads a whole command line: the subcommand and what its arguments gave, or the stop. -/
def read (p : Program) (words : List String) : Except Stop (Command × Matches) := do
  let (c, rest) ← p.readHead false words
  match readWords c.scope rest {} with
  | .ok () r => pure (c, r.found)
  | .error e _ => throw e

end Program

end DocLinks.Cli
