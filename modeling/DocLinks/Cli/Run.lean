import DocLinks.Cli.Commands
import DocLinks.Cli.Files
import DocLinks.Document

/-!
Running `refdoc`: the command line is read, then the subcommand runs against the files.

The texts of a run are read and written through a codec: a reader of the options file, a reader
of the dump, each answering a value or the text of its fault, and a writer of JSON values.

Every subcommand first loads the options file if one is named, then turns on what its switches
ask for, then reads and documents the dump. A failure is reported on standard error as
`Error: ` and its chain of contexts, each followed by what it failed with, and the run ends
with status 1: `loading options from PATH`, `reading symbol dump PATH`,
`building documentation for PATH` and `writing PATH`. A failure to read or parse shows the
error and then the text it wraps; a failure to write shows the system's text alone.

A command line that is not read through ends the run with its page or error: help and version
pages on standard output with status 0, errors on standard error with status 2.
-/

namespace DocLinks.Cli

/-- What a run did: its exit status, what it wrote to its two streams, and the kind of stop if
the command line was not read through. -/
structure Outcome where
  exitCode : Nat
  stdout : String := ""
  stderr : String := ""
  stop : Option StopKind := none
  deriving Repr

/-- The texts of a run: how the options file and the dump are read, and how JSON is written. -/
structure Codec where
  options : String → Except String Options
  dump : String → Except String Dump
  pretty : Json → String

/-- Work that fails with the text of its chain of contexts. -/
abbrev Work (m : Type → Type) := ExceptT String m

variable {m : Type → Type} [Monad m]

/-- Reads a file, failing under a context. -/
def readUnder (fs : FileAccess m) (context path : String) : Work m String := do
  match ← (fs.read path : m _) with
  | .ok text => pure text
  | .error e => throw (context ++ ": " ++ (Error.io e.message).chain)

/-- The options of a run: the options file's, if one is named, with the switches turned on. -/
def RunArgs.options (codec : Codec) (fs : FileAccess m) (run : RunArgs) : Work m Options := do
  match run.config with
  | none => pure { parallel := run.parallel }
  | some path =>
    let context := "loading options from " ++ path
    let text ← readUnder fs context path
    match ofJsonText codec.options text with
    | .ok o => pure (o.enable run.parallel false false)
    | .error e => throw (context ++ ": " ++ e.chain)

/-- Reads and documents the dump of a run. -/
def RunArgs.document (codec : Codec) (fs : FileAccess m) (run : RunArgs) (opts : Options) :
    Work m Documentation := do
  let context := "reading symbol dump " ++ run.dump
  let text ← readUnder fs context run.dump
  match ofJsonText codec.dump text with
  | .error e => throw (context ++ ": " ++ e.chain)
  | .ok dump =>
    match (dump.document opts).1 with
    | .ok d => pure d
    | .error e => throw ("building documentation for " ++ run.dump ++ ": " ++ e.chain)

/-- Runs an invocation: answers the exit status and what goes to standard output. -/
def Invocation.run (codec : Codec) (fs : FileAccess m) : Invocation → Work m (Nat × String)
  | .resolve run typeArguments targets output => do
    let opts := (← run.options codec fs).enable false typeArguments targets
    let d ← run.document codec fs opts
    let text := codec.pretty (d.project.toJson opts.serialize)
    match output with
    | none => pure (0, text ++ "\n")
    | some path =>
      match ← (fs.write path text : m _) with
      | .ok () => pure (0, "")
      | .error e => throw ("writing " ++ path ++ ": " ++ e.message)
  | .render run => do
    let opts ← run.options codec fs
    let d ← run.document codec fs opts
    pure (0, String.join (d.project.render.map (· ++ "\n")))
  | .report run strict => do
    let opts ← run.options codec fs
    let d ← run.document codec fs opts
    let report := Report.ofProject d.project d.stats
    pure (if strict && !report.isComplete then 2 else 0, codec.pretty report.toJson ++ "\n")

/-- Runs `refdoc` with the words of a command line. -/
def runCommandLine (codec : Codec) (fs : FileAccess m) (words : List String) : m Outcome := do
  match Invocation.read words with
  | .error s =>
    if s.requested then pure { exitCode := s.exitCode, stdout := s.text, stop := some s.kind }
    else pure { exitCode := s.exitCode, stderr := s.text, stop := some s.kind }
  | .ok inv =>
    match ← (inv.run codec fs).run with
    | .ok (code, out) => pure { exitCode := code, stdout := out }
    | .error chain => pure { exitCode := 1, stderr := "Error: " ++ chain ++ "\n" }

end DocLinks.Cli
