import DocLinks.Read.Codec

/-!
The `refdoc` program on a real disk: the command line's words go to the run, whose output and
exit status are passed on.
-/

open DocLinks.Cli

/-- The failure a disk operation raised, as the command line reports it. -/
def fileErrorOf : IO.Error → FileError
  | .noFileOrDirectory .. => .notFound
  | .inappropriateType _ 20 _ => .notADirectory
  | .inappropriateType _ 21 _ => .isADirectory
  | .permissionDenied .. => .permissionDenied
  | e => .other (toString e)

/-- Files on disk, paths taken from the working directory; a path no system call can take is
refused first. -/
def diskAccess : FileAccess IO where
  read p := do
    match pathFault p with
    | some e => pure (.error e)
    | none =>
      try
        let bytes ← IO.FS.readBinFile p
        match String.fromUTF8? bytes with
        | some text => pure (.ok text)
        | none => pure (.error .notText)
      catch e => pure (.error (fileErrorOf e))
  write p text := do
    match pathFault p with
    | some e => pure (.error e)
    | none =>
      try
        IO.FS.writeFile p text
        pure (.ok ())
      catch e => pure (.error (fileErrorOf e))

/-- Runs `refdoc` with the command line's words. -/
def main (args : List String) : IO UInt32 := do
  let o ← runCommandLine jsonCodec diskAccess args
  IO.print o.stdout
  IO.eprint o.stderr
  pure o.exitCode.toUInt32
