import DocLinks.Project

/-!
The report of a resolving pass: the project's name, the pass's counters, and the distinct
references that stayed unbound, each once by name and symbol id, ordered by name and then by
symbol id. Names are compared character by character, which is the order of their UTF-8 bytes.
A report is complete when nothing stayed unbound.
-/

namespace DocLinks

/-- A reference that stayed unbound, by what it was written with. -/
structure Unbound where
  name : String
  symbol : Int
  deriving DecidableEq, Repr

/-- The order of unbound references: by name, then by symbol id. -/
def Unbound.lt (a b : Unbound) : Bool :=
  a.name < b.name || (a.name == b.name && a.symbol < b.symbol)

/-- Inserts into a list kept in strictly increasing order; an equal element is not added again. -/
def Unbound.insert (u : Unbound) : List Unbound → List Unbound
  | [] => [u]
  | v :: vs =>
    if u.lt v then u :: v :: vs
    else if u = v then v :: vs
    else v :: Unbound.insert u vs

/-- The report of a pass. -/
structure Report where
  project : String
  stats : Stats
  unbound : List Unbound

/-- The four counters as an object. -/
def Stats.toJson (s : Stats) : Json :=
  .obj [("resolved", .int s.resolved), ("alreadyResolved", .int s.alreadyResolved),
    ("unresolved", .int s.unresolved), ("noSymbol", .int s.noSymbol)]

namespace Report

/-- The report of a project after a pass with these counters. -/
def ofProject (p : Project) (stats : Stats) : Report :=
  { project := p.name, stats,
    unbound := ((p.references.filter fun r => !r.isResolved p.targets).map fun r =>
      (⟨r.name, r.symbol⟩ : Unbound)).foldl (fun acc u => u.insert acc) [] }

/-- Whether every reference found its target. -/
def isComplete (r : Report) : Bool := r.unbound.isEmpty

/-- The report as an object. -/
def toJson (r : Report) : Json :=
  .obj [("project", .str r.project), ("stats", r.stats.toJson),
    ("unresolved", .arr (r.unbound.map fun u => .obj [("name", .str u.name), ("symbolID", .int u.symbol)]))]

end Report

end DocLinks
