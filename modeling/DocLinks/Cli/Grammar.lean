/-!
The grammar of a command line: a program made of subcommands, each taking named switches and
values by position, and the pages drawn from it: help pages, usage lines and the version line.

A help page is the command's description, its usage line, then a section for the values taken
by position, for the switches and, for the program, for the subcommands. Each section lists one
entry a line, the names padded to the longest in the section and followed by two spaces.

The usage line comes in two forms. The full one lists `[OPTIONS]` when the command has a switch
other than help and version, then every positional value. The one fitted to a command line
lists the switches it used, in the order first used, then the positional values that are
required or were used.
-/

namespace DocLinks.Cli

/-- What a switch does when given. -/
inductive Action where
  /-- Turns a flag on; takes no value. -/
  | flag
  /-- Takes one value, which help pages name `valueName`. -/
  | value (valueName : String)
  /-- Shows the help page. -/
  | help
  /-- Shows the version line. -/
  | version
  deriving DecidableEq, Repr

/-- An argument given by name: a long name and maybe a one-letter short one. -/
structure Switch where
  id : String
  long : String
  short : Option Char := none
  action : Action
  help : String
  deriving Repr

/-- A value given by position. -/
structure Positional where
  id : String
  valueName : String
  help : String
  required : Bool := true
  /-- Whether it takes any number of values. -/
  many : Bool := false
  deriving Repr

/-- Arguments that belong together, by their ids. Usage lines show a group used by a command
line as one item in place of its members. -/
structure Group where
  id : String
  members : List String
  deriving Repr

/-- A command that takes switches and positional values. -/
structure Command where
  /-- The name the user types. -/
  name : String
  /-- The name with the program's in front, as usage lines show it. -/
  path : String
  about : String
  switches : List Switch
  positionals : List Positional
  groups : List Group := []
  deriving Repr

/-- A program made of subcommands. -/
structure Program where
  name : String
  version : String
  about : String
  commands : List Command
  deriving Repr

/-- The switch that shows a help page. -/
def helpSwitch : Switch :=
  { id := "help", long := "help", short := some 'h', action := .help, help := "Print help" }

/-- The switch that shows the version line. -/
def versionSwitch : Switch :=
  { id := "version", long := "version", short := some 'V', action := .version,
    help := "Print version" }

/-- An argument of a command: a switch or a positional value. -/
inductive Arg where
  | switch (s : Switch)
  | positional (p : Positional)
  deriving Repr

namespace Switch

/-- How messages name a switch: its long name, and its value's name if it takes one. -/
def display (s : Switch) : String :=
  match s.action with
  | .value v => "--" ++ s.long ++ " <" ++ v ++ ">"
  | _ => "--" ++ s.long

/-- How help pages name a switch: the short name if there is one, then the long one. -/
def helpName (s : Switch) : String :=
  (match s.short with
    | some c => "-" ++ c.toString ++ ", "
    | none => "    ") ++ s.display

/-- Whether the switch takes a value. -/
def takesValue (s : Switch) : Bool :=
  match s.action with
  | .value _ => true
  | _ => false

/-- Whether the switch is one of the built-in help and version switches. -/
def isBuiltIn (s : Switch) : Bool :=
  match s.action with
  | .help | .version => true
  | _ => false

end Switch

/-- How messages and usage lines name a positional value. -/
def Positional.display (p : Positional) : String :=
  (if p.required then "<" ++ p.valueName ++ ">" else "[" ++ p.valueName ++ "]") ++
    (if p.many then "..." else "")

namespace Arg

/-- The argument's id. -/
def id : Arg → String
  | .switch s => s.id
  | .positional p => p.id

/-- How messages name the argument. -/
def display : Arg → String
  | .switch s => s.display
  | .positional p => p.display

end Arg

/-- Pads a text with spaces to a width. -/
def padTo (width : Nat) (s : String) : String :=
  s ++ String.ofList (List.replicate (width - s.length) ' ')

/-- A section of a help page: its heading, then one line an entry, names padded to the longest. -/
def listing (heading : String) (entries : List (String × String)) : String :=
  let width := entries.foldl (fun w e => max w e.1.length) 0
  heading ++ ":\n" ++ "\n".intercalate (entries.map fun (n, h) => "  " ++ padTo width n ++ "  " ++ h)

/-- Joins the sections of a page, leaving out empty ones; the page ends with a newline. -/
def page (parts : List String) : String :=
  "\n\n".intercalate (parts.filter (!·.isEmpty)) ++ "\n"

namespace Command

/-- Whether the command has a switch other than help and version. -/
def hasOptions (c : Command) : Bool := c.switches.any (!·.isBuiltIn)

/-- The full usage line. -/
def usage (c : Command) : String :=
  c.path ++ (if c.hasOptions then " [OPTIONS]" else "") ++
    String.join (c.positionals.map (" " ++ ·.display))

/-- How a usage line names a group: its members between `<` and `>`, apart by `|`, a positional
value by its bare name. -/
def groupDisplay (c : Command) (g : Group) : String :=
  "<" ++ "|".intercalate (g.members.filterMap fun id =>
    match c.switches.find? (·.id == id) with
    | some s => some s.display
    | none => (c.positionals.find? (·.id == id)).map (·.valueName)) ++ ">"

/-- The usage line fitted to the arguments and groups used: the switches used, in order, then
the groups used, then the positional values that are required or were used; a member of a
group used stands only in its group. -/
def usageWith (c : Command) (used : List String) : String :=
  let groups := c.groups.filter fun g => used.contains g.id
  let grouped := fun (id : String) => groups.any (·.members.contains id)
  c.path ++
    String.join (((used.eraseDups.filterMap fun id => c.switches.find? (·.id == id)).filter
      (!grouped ·.id)).map (" " ++ ·.display)) ++
    String.join (groups.map (" " ++ c.groupDisplay ·)) ++
    String.join ((c.positionals.filter fun p => (p.required || used.contains p.id) && !grouped p.id).map
      (" " ++ ·.display))

/-- Whether the command has a help switch, which error texts point to. -/
def hasHelp (c : Command) : Bool := c.switches.any (·.action == .help)

/-- The groups an argument belongs to. -/
def groupsOf (c : Command) (id : String) : List String :=
  (c.groups.filter (·.members.contains id)).map (·.id)

/-- The help page. -/
def helpPage (c : Command) : String :=
  page [c.about, "Usage: " ++ c.usage,
    if c.positionals.isEmpty then "" else listing "Arguments" (c.positionals.map fun p => (p.display, p.help)),
    if c.switches.isEmpty then "" else listing "Options" (c.switches.map fun s => (s.helpName, s.help))]

/-- The switch with a long name. -/
def findLong (c : Command) (name : String) : Option Switch := c.switches.find? (·.long == name)

/-- The switch with a short name. -/
def findShort (c : Command) (ch : Char) : Option Switch := c.switches.find? (·.short == some ch)

/-- The long names of the switches, in order. -/
def longs (c : Command) : List String := c.switches.map (·.long)

end Command

namespace Program

/-- The subcommand names the help command takes. -/
def helpTopics : Positional :=
  { id := "subcommand", valueName := "COMMAND", help := "Print help for the subcommand(s)",
    required := false, many := true }

/-- The command that prints help pages. -/
def helpCommand (p : Program) : Command :=
  { name := "help", path := p.name ++ " help",
    about := "Print this message or the help of the given subcommand(s)", switches := [],
    positionals := [helpTopics] }

/-- The subcommands, the help command last. -/
def subcommands (p : Program) : List Command := p.commands ++ [p.helpCommand]

/-- The program as a command: its own switches are help and version. -/
def root (p : Program) : Command :=
  { name := p.name, path := p.name, about := p.about, switches := [helpSwitch, versionSwitch],
    positionals := [] }

/-- The full usage line. -/
def usage (p : Program) : String := p.name ++ " <COMMAND>"

/-- The usage line fitted to the switches used. -/
def usageWith (p : Program) (used : List String) : String :=
  p.root.usageWith used ++ " <COMMAND>"

/-- The help page. -/
def helpPage (p : Program) : String :=
  page [p.about, "Usage: " ++ p.usage,
    listing "Commands" (p.subcommands.map fun c => (c.name, c.about)),
    listing "Options" (p.root.switches.map fun s => (s.helpName, s.help))]

/-- The version line. -/
def versionLine (p : Program) : String := p.name ++ " " ++ p.version ++ "\n"

/-- The subcommand with a name. -/
def find (p : Program) (name : String) : Option Command := p.subcommands.find? (·.name == name)

end Program

end DocLinks.Cli
