import DocLinks.Cli.Parse

/-!
The command line of `refdoc`: three subcommands that document a symbol dump, each taking the
dump's path, an optional options file and a switch for the parallel pass. `resolve` writes the
documented project as JSON, to standard output or a file, with optional extras in reference
records; `render` prints each declaration's type; `report` prints the resolving pass's report,
and with `--strict` fails when a reference stayed unbound.
-/

namespace DocLinks.Cli

/-- The dump every subcommand documents. -/
def dumpArgument : Positional :=
  { id := "input", valueName := "DUMP", help := "Symbol dump produced by the front-end" }

/-- The options file. -/
def configSwitch : Switch :=
  { id := "config", long := "config", short := some 'c', action := .value "FILE",
    help := "JSON options file" }

/-- The switch for the parallel pass. -/
def parallelSwitch : Switch :=
  { id := "parallel", long := "parallel", action := .flag, help := "Resolve references in parallel" }

/-- The arguments every subcommand takes, as a group. -/
def runGroup : Group := { id := "run", members := ["input", "config", "parallel"] }

/-- The subcommand that writes the documented project. -/
def resolveCommand : Command :=
  { name := "resolve", path := "refdoc resolve",
    about := "Write the resolved documentation model as JSON",
    switches := [configSwitch, parallelSwitch,
      { id := "type_arguments", long := "type-arguments", action := .flag,
        help := "Include type arguments in reference records" },
      { id := "targets", long := "targets", action := .flag,
        help := "Include bound reflection ids in reference records" },
      { id := "output", long := "output", short := some 'o', action := .value "FILE",
        help := "Output file (stdout if omitted)" },
      helpSwitch],
    positionals := [dumpArgument], groups := [runGroup] }

/-- The subcommand that prints declarations' types. -/
def renderCommand : Command :=
  { name := "render", path := "refdoc render",
    about := "Print `name: type` for every declaration with a type",
    switches := [configSwitch, parallelSwitch, helpSwitch], positionals := [dumpArgument],
    groups := [runGroup] }

/-- The subcommand that prints the report of the resolving pass. -/
def reportCommand : Command :=
  { name := "report", path := "refdoc report", about := "Print a JSON report of the resolving pass",
    switches := [configSwitch, parallelSwitch,
      { id := "strict", long := "strict", action := .flag,
        help := "Exit with status 2 if any reference stays unresolved" },
      helpSwitch],
    positionals := [dumpArgument], groups := [runGroup] }

/-- The program. -/
def refdoc : Program :=
  { name := "refdoc", version := "0.1.0",
    about := "Builds the documentation model for a symbol dump and resolves its type references",
    commands := [resolveCommand, renderCommand, reportCommand] }

/-- What every subcommand is given. -/
structure RunArgs where
  /-- The dump's path. -/
  dump : String
  /-- The options file's path. -/
  config : Option String := none
  parallel : Bool := false
  deriving DecidableEq, Repr

/-- A subcommand with its arguments. -/
inductive Invocation where
  | resolve (run : RunArgs) (typeArguments targets : Bool) (output : Option String)
  | render (run : RunArgs)
  | report (run : RunArgs) (strict : Bool)
  deriving DecidableEq, Repr

/-- What every subcommand was given. -/
def RunArgs.ofMatches (m : Matches) : RunArgs :=
  { dump := (m.value "input").getD "", config := m.value "config", parallel := m.has "parallel" }

/-- The invocation a subcommand's arguments make. -/
def Invocation.ofMatches (c : Command) (m : Matches) : Invocation :=
  let run := RunArgs.ofMatches m
  if c.name == "resolve" then .resolve run (m.has "type_arguments") (m.has "targets") (m.value "output")
  else if c.name == "report" then .report run (m.has "strict")
  else .render run

/-- Reads a command line into an invocation, or the stop it comes to. -/
def Invocation.read (words : List String) : Except Stop Invocation := do
  let (c, m) ← refdoc.read words
  pure (Invocation.ofMatches c m)

end DocLinks.Cli
