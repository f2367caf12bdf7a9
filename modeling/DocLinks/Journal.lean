/-!
The journal: diagnostics a run records as it goes, each a level and a line of text. They are
data: a run returns them, and whoever runs it decides what to show.
-/

namespace DocLinks

/-- How much a diagnostic matters, from the finest detail up to a warning. -/
inductive Level where
  | trace
  | debug
  | info
  | warn
  deriving DecidableEq, Repr

/-- The name of a level as a journal line starts with it. -/
def Level.label : Level → String
  | .trace => "TRACE"
  | .debug => "DEBUG"
  | .info => "INFO"
  | .warn => "WARN"

/-- One diagnostic. -/
structure Note where
  level : Level
  text : String
  deriving DecidableEq, Repr

/-- A diagnostic as a line: its level's name, a space, and its text. -/
def Note.line (n : Note) : String := n.level.label ++ " " ++ n.text

end DocLinks
