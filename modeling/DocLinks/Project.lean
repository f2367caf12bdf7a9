import DocLinks.Reflection.Basic
import DocLinks.Resolve.Attempt

/-!
A project: the documentation model of one run, with its reflections in order, each kept in the
cell of its own id, and its frozen symbol table. Every reflection of a project is alive for as
long as the project is.

The resolving pass tries every reference of the project once, in walk order: reflection by
reflection, each one's declared type and then the types it extends. It answers the project with
the slots it wrote, and its counters, and records a summary line. The parallel pass makes the
same attempts; its counters add up per part of the work list, which gives the same counts.
-/

namespace DocLinks

/-- The documentation model of a run. -/
structure Project where
  name : String
  reflections : Array Reflection
  symbols : SymbolMap
  deriving Inhabited

namespace Project

/-- The reflections of a project, by the cell of their id. -/
def targets (p : Project) : Targets := fun cell => (p.reflections[cell]?).map (·.target)

/-- The reflection with an id. -/
def get (p : Project) (id : Nat) : Option Reflection := p.reflections[id]?

/-- Every reference of the project, in walk order. -/
def references (p : Project) : List Reference := p.reflections.toList.flatMap (·.references)

/-- The ids of the direct children of a reflection. -/
def children (p : Project) (id : Nat) : List Nat :=
  (p.reflections.toList.filter (·.parent == some id)).map (·.id)

/-- The ids of the reflections without a parent. -/
def roots (p : Project) : List Nat :=
  (p.reflections.toList.filter (·.parent.isNone)).map (·.id)

/-- The record of a project: its name, its reflections, and its symbol mapping. -/
def toJson (p : Project) (opts : RecordOptions) : Json :=
  .obj [("name", .str p.name),
    ("reflections", .arr (p.reflections.toList.map (Reflection.toJson opts p.targets))),
    ("symbolMapping", p.symbols.mappingJson)]

/-- The lines the project renders to, reflection by reflection. -/
def render (p : Project) : List String := p.reflections.toList.flatMap (Reflection.render p.targets)

end Project

/-- Tries every reference of a reflection: its declared type, then the types it extends. -/
def Reflection.resolve (symbols : SymbolMap) (live : Targets) (prog : Progress) (r : Reflection) :
    Progress × Reflection :=
  let (p1, ty) := match r.type with
    | some t =>
      let (p, t') := t.resolve symbols live prog
      (p, some t')
    | none => (prog, none)
  let (p2, ext) := TypeExpr.resolveAll symbols live p1 r.extended
  (p2, { r with type := ty, extended := ext })

/-- Tries every reference of reflections, in order. -/
def Reflection.resolveAll (symbols : SymbolMap) (live : Targets) :
    Progress → List Reflection → Progress × List Reflection
  | prog, [] => (prog, [])
  | prog, r :: rs =>
    let (p1, r') := r.resolve symbols live prog
    let (p2, rs') := Reflection.resolveAll symbols live p1 rs
    (p2, r' :: rs')

/-- The counters of outcomes added up part by part: the list is split in halves, each half is
counted, and the counts are merged; `fuel` bounds the splitting. -/
def Stats.ofParts : Nat → List Outcome → Stats
  | 0, os => Stats.ofOutcomes os
  | fuel + 1, os =>
    if os.length ≤ 1 then Stats.ofOutcomes os
    else
      let half := os.length / 2
      (Stats.ofParts fuel (os.take half)).merge (Stats.ofParts fuel (os.drop half))

/-- The summary line of a pass over a project. -/
def summaryNote (name : String) (s : Stats) : Note :=
  ⟨.info, name ++ ": resolved " ++ toString s.resolved ++ " of " ++ toString s.total ++ " references (" ++
    toString s.alreadyResolved ++ " already bound, " ++ toString s.unresolved ++ " undocumented, " ++
    toString s.noSymbol ++ " without symbol)"⟩

/-- What a pass over a project answers: the project with its slots written, the counters, and
the notes recorded, the summary last. -/
structure PassResult where
  project : Project
  stats : Stats
  notes : List Note

namespace Project

/-- The attempts of a pass over the project, in walk order. -/
def attempts (p : Project) : Progress × Project :=
  let (prog, rs) := Reflection.resolveAll p.symbols p.targets {} p.reflections.toList
  (prog, { p with reflections := rs.toArray })

/-- The resolving pass, one reference after the other. -/
def resolve (p : Project) : PassResult :=
  let (prog, p') := p.attempts
  let stats := prog.stats
  { project := p', stats, notes := prog.notes ++ [summaryNote p.name stats] }

/-- The resolving pass with its counters added up part by part. -/
def resolveParallel (p : Project) : PassResult :=
  let (prog, p') := p.attempts
  let stats := Stats.ofParts prog.outcomes.length prog.outcomes
  { project := p', stats, notes := prog.notes ++ [summaryNote p.name stats] }

end Project

end DocLinks
