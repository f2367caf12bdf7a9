/-!
Files as the command line sees them: reading a file's text and writing one, through an interface
that a real disk or a directory held in memory can provide.

A path resolves the way the operating system resolves it, one component at a time: `.` stays,
`..` goes up, a symbolic link is followed where it is met, and every component before the last
must be a directory. The working directory is held in memory and sits in `/tmp`; the rest of the
system is known by a small tree: the usual directories, the null device, a few text files and
programs, and the links that lead elsewhere (`/bin` into `/usr`, `/proc/self/cwd` back to the
working directory). A file written outside the working directory is out of sight.

A path holding a NUL character is refused before anything else, and a path of 4096 bytes or
more, or with a component longer than 255 bytes, is too long. Reading a directory fails with
"Is a directory"; reading through a file, or a file named with a trailing `/`, fails with "Not
a directory"; a missing component fails with "No such file or directory". Writing follows the
rules of creating a file: a name ending in `/` or naming a directory is "Is a directory", a new
name under `/proc` is not found, and one under `/sys` is refused permission.
-/

namespace DocLinks.Cli

/-- Why a file could not be read or written, as the operating system reports it. -/
inductive FileError where
  | notFound
  | notADirectory
  | isADirectory
  | nameTooLong
  | permissionDenied
  /-- A path holding a NUL character, which no system call can take. -/
  | nulInName
  /-- A file whose bytes are not UTF-8 text. -/
  | notText
  /-- Any other failure, by the system's text. -/
  | other (text : String)
  deriving DecidableEq, Repr

/-- The operating system's text of a failure. -/
def FileError.message : FileError → String
  | .notFound => "No such file or directory (os error 2)"
  | .notADirectory => "Not a directory (os error 20)"
  | .isADirectory => "Is a directory (os error 21)"
  | .nameTooLong => "File name too long (os error 36)"
  | .permissionDenied => "Permission denied (os error 13)"
  | .nulInName => "file name contained an unexpected NUL byte"
  | .notText => "stream did not contain valid UTF-8"
  | .other text => text

/-- Reading and writing whole files, in a monad. -/
structure FileAccess (m : Type → Type) where
  read : String → m (Except FileError String)
  write : String → String → m (Except FileError Unit)

/-- An entry of a directory held in memory. -/
inductive Entry where
  | file (text : String)
  /-- A file whose bytes are not UTF-8 text, such as a program. -/
  | binary
  | directory
  deriving DecidableEq, Repr

/-- A working directory held in memory: its entries, each by its path of names from it. -/
structure Workspace where
  entries : List (List String × Entry) := []
  deriving Repr

/-- Where a path leads. -/
inductive Place where
  /-- An entry of the working directory's tree, by its path of names from it. -/
  | work (path : List String)
  /-- An entry of the rest of the system, by its path of names from the root. -/
  | system (path : List String)
  deriving DecidableEq, Repr

/-- The components of a path, and whether it ends in `/`. -/
def splitPath (p : String) : List String × Bool :=
  let parts := p.splitOn "/"
  (parts.filter (!·.isEmpty), p.endsWith "/")

/-- The longest component of a path, in bytes. -/
def nameMax : Nat := 255

/-- The length in bytes from which a whole path is too long. -/
def pathMax : Nat := 4096

/-- The fault of a path that no system call can take: one holding a NUL character. -/
def pathFault (p : String) : Option FileError :=
  if p.contains (Char.ofNat 0) then some .nulInName else none

/-- The directories of the system that are known, by their paths from the root. -/
def systemDirectories : List (List String) :=
  [["boot"], ["dev"], ["dev", "pts"], ["dev", "shm"], ["etc"], ["home"], ["media"], ["mnt"],
   ["opt"], ["proc"], ["proc", "1"], ["proc", "self"], ["proc", "self", "attr"],
   ["proc", "self", "fd"], ["proc", "self", "fdinfo"], ["proc", "self", "net"],
   ["proc", "self", "ns"], ["proc", "self", "task"], ["root"], ["run"], ["srv"], ["sys"],
   ["sys", "block"], ["sys", "bus"], ["sys", "class"], ["sys", "dev"], ["sys", "devices"], ["sys", "firmware"],
   ["sys", "fs"], ["sys", "kernel"], ["sys", "module"], ["sys", "power"], ["tmp"], ["usr"],
   ["usr", "bin"], ["usr", "games"], ["usr", "include"], ["usr", "lib"], ["usr", "lib64"],
   ["usr", "libexec"], ["usr", "local"], ["usr", "local", "bin"], ["usr", "local", "lib"],
   ["usr", "sbin"], ["usr", "share"], ["usr", "src"], ["var"], ["var", "backups"],
   ["var", "cache"], ["var", "lib"], ["var", "local"], ["var", "log"], ["var", "mail"],
   ["var", "opt"], ["var", "spool"], ["var", "tmp"]]

/-- The files of the system that are known. A text file is given by its opening, which is all a
reader of JSON takes in before it fails at the first character; the null device reads as
empty. -/
def systemFiles : List (List String × Entry) :=
  [(["dev", "null"], .file ""),
   (["etc", "group"], .file "root:x:0:\n"),
   (["etc", "hostname"], .file "vm\n"),
   (["etc", "passwd"], .file "root:x:0:0:root:/root:/bin/bash\n"),
   (["etc", "shadow"], .file "root:*:20553:0:99999:7:::\n"),
   (["proc", "cpuinfo"], .file "processor\t: 0\n"),
   (["proc", "meminfo"], .file "MemTotal: 32939528 kB\n"),
   (["proc", "version"], .file "Linux version 6.18.44\n"),
   (["proc", "self", "cmdline"], .file "refdoc"),
   (["proc", "self", "exe"], .binary),
   (["proc", "self", "status"], .file "Name:\trefdoc\n"),
   (["usr", "bin", "bash"], .binary),
   (["usr", "bin", "cat"], .binary),
   (["usr", "bin", "env"], .binary),
   (["usr", "bin", "ls"], .binary),
   (["usr", "bin", "sh"], .binary),
   (["usr", "lib", "os-release"], .file "PRETTY_NAME=\"Ubuntu 24.04.4 LTS\"\n")]

/-- The symbolic links of the system, each with the place it leads to: the directories merged
into `/usr`, the directory of open files, the release file, and the process's own working and
root directories. -/
def systemLinks : List (List String × Place) :=
  [(["bin"], .system ["usr", "bin"]), (["lib"], .system ["usr", "lib"]),
   (["lib64"], .system ["usr", "lib64"]), (["sbin"], .system ["usr", "sbin"]),
   (["dev", "fd"], .system ["proc", "self", "fd"]),
   (["etc", "os-release"], .system ["usr", "lib", "os-release"]),
   (["proc", "self", "cwd"], .work []), (["proc", "self", "root"], .system [])]

/-- What the system outside the working directory holds at a path. -/
def systemEntry (p : List String) : Option Entry :=
  if p.isEmpty || systemDirectories.contains p then some .directory else systemFiles.lookup p

/-- Why no file can be created at a path of the system: the process tree has no name to create
and answers that none is found, and the kernel's object tree refuses permission; elsewhere a
file can be created. -/
def systemCreateFault : List String → Option FileError
  | "proc" :: _ => some .notFound
  | "sys" :: _ => some .permissionDenied
  | _ => none

/-- A place with the link standing there followed. -/
def follow : Place → Place
  | .system p => (systemLinks.lookup p).getD (.system p)
  | .work p => .work p

/-- The place a component leads to from a directory; above the working directory is `/tmp`. -/
def step : Place → String → Place
  | p, "." => p
  | .work [], ".." => .system ["tmp"]
  | .work p, ".." => .work p.dropLast
  | .system p, ".." => .system p.dropLast
  | .work p, name => .work (p ++ [name])
  | .system p, name => follow (.system (p ++ [name]))

namespace Workspace

/-- The entry at a path of names; the working directory itself is a directory. -/
def get (w : Workspace) (path : List String) : Option Entry :=
  if path.isEmpty then some .directory else w.entries.lookup path

/-- The entry at a place. -/
def entryAt (w : Workspace) : Place → Option Entry
  | .work p => w.get p
  | .system p => systemEntry p

/-- Walks the components of a path from a place; every component but the last must be a
directory, and no component may be longer than `nameMax` bytes. Answers the place the last
component names. -/
def walk (w : Workspace) : Place → List String → Except FileError Place
  | place, [] => .ok place
  | place, c :: rest =>
    if c.utf8ByteSize > nameMax then .error .nameTooLong
    else
      let next := step place c
      if rest.isEmpty then .ok next
      else
        match w.entryAt next with
        | some .directory => w.walk next rest
        | some _ => .error .notADirectory
        | none => .error .notFound

/-- Where a path leads, from the working directory or, for an absolute path, from the root. -/
def locate (w : Workspace) (p : String) : Except FileError Place :=
  match pathFault p with
  | some e => .error e
  | none =>
    if p.isEmpty then .error .notFound
    else if p.utf8ByteSize ≥ pathMax then .error .nameTooLong
    else w.walk (if p.startsWith "/" then .system [] else .work []) (splitPath p).1

/-- Reads a file's text. -/
def read (w : Workspace) (p : String) : Except FileError String := do
  let place ← w.locate p
  match w.entryAt place with
  | some .directory => .error .isADirectory
  | some (.file text) => if (splitPath p).2 then .error .notADirectory else .ok text
  | some .binary => if (splitPath p).2 then .error .notADirectory else .error .notText
  | none => .error .notFound

/-- Sets the entry at a path, in place of one there. -/
def put (w : Workspace) (path : List String) (e : Entry) : Workspace :=
  if w.entries.any (·.1 == path) then
    { entries := w.entries.map fun (q, old) => if q == path then (q, e) else (q, old) }
  else { entries := w.entries ++ [(path, e)] }

/-- Stores a file's text at a place: in the working directory's tree, or out of sight. -/
def store (w : Workspace) (place : Place) (text : String) : Workspace :=
  match place with
  | .work path => w.put path (.file text)
  | .system _ => w

/-- Writes a file, creating it or replacing its text. A name ending in `/` can only be a
directory's, so it is refused as one before the name is looked up. -/
def write (w : Workspace) (p : String) (text : String) : Except FileError Workspace := do
  let place ← w.locate p
  if (splitPath p).2 then .error .isADirectory
  else
    match w.entryAt place, place with
    | some .directory, _ => .error .isADirectory
    | some _, _ => .ok (w.store place text)
    | none, .system path =>
      match systemCreateFault path with
      | some e => .error e
      | none => .ok w
    | none, .work _ => .ok (w.store place text)

/-- The entries directly in the working directory, by name: a file's text, or none for a
directory. -/
def listing (w : Workspace) : List (String × Option String) :=
  w.entries.filterMap fun (path, e) =>
    match path, e with
    | [name], .file text => some (name, some text)
    | [name], .directory => some (name, none)
    | _, _ => none

/-- Access to the files of a directory held in memory. -/
def access : FileAccess (StateM Workspace) where
  read p := fun w => (Workspace.read w p, w)
  write p text := fun w =>
    match w.write p text with
    | .ok w' => (.ok (), w')
    | .error e => (.error e, w)

end Workspace

end DocLinks.Cli
