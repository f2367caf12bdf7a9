import DocLinks.Resolve.Attempt
import DocLinks.Types.Record

/-!
A session: a stateful workbench for references, reflections and a symbol table. It keeps a pool
of reflections by id, a symbol table that is first filled and then frozen, and a list of
references. Letting go of the table, frozen or not, starts a new one to fill.

Every reflection made in a session is kept in a cell of its own. A reflection stays alive while
the pool or the symbol table holds its cell: replacing or dropping a pool entry lets go of the
pool's hold, letting go of the table lets go of the table's, and a reference bound to a
reflection that nothing holds any more reads as unbound, though its slot stays written and can
never be written again.

Steps that do not fit the state are refused: the table is filled only before it is frozen and
consulted by resolution only after; a pool id or a reference index must exist.
-/

namespace DocLinks

/-- The state of a session. -/
structure Session where
  /-- Every reflection made, by cell. -/
  cells : Array Target := #[]
  /-- The pool: reflection ids with the cells of their current reflections. -/
  pool : List (Nat × Nat) := []
  table : SymbolTable := {}
  frozen : Bool := false
  references : Array TypeExpr := #[]
  deriving Inhabited

/-- A step of a session. -/
inductive Step where
  /-- Puts a new reflection into the pool, in place of any with the same id. -/
  | reflection (id : Nat) (name : String) (kind : Kind)
  /-- Takes a reflection out of the pool. -/
  | drop (id : Nat)
  /-- Registers a pool reflection for a symbol. -/
  | register (symbol : Int) (id : Nat)
  /-- Looks a symbol up in the table being filled. -/
  | get (symbol : Int)
  /-- Freezes the table. -/
  | finish
  /-- Looks a symbol up in the frozen table. -/
  | lookup (symbol : Int)
  /-- Lets go of the table and starts filling a new one. -/
  | release
  /-- Adds a reference, bound at once to a pool reflection if one is named; its type
  arguments are records, or the failure of reading them. -/
  | reference (name : String) (symbol : Int) (target : Option Nat) (array : Bool)
      (arguments : Except Error (List TypeRecord))
  /-- Writes a reference's slot with a pool reflection. -/
  | bind (index : Nat) (id : Nat)
  /-- One binding attempt against the frozen table. -/
  | resolve (index : Nat)
  /-- One binding attempt for every reference, in order. -/
  | resolveAll
  /-- Shows a reference. -/
  | show (index : Nat)

/-- A step that does not fit the state of the session. -/
inductive Misuse where
  | frozen
  | notFrozen
  | noReference (index : Nat)
  | noReflection (id : Nat)
  deriving DecidableEq, Repr

/-- The text of a refused step. -/
def Misuse.message : Misuse → String
  | .frozen => "table is frozen"
  | .notFrozen => "table is not frozen"
  | .noReference i => "no reference " ++ toString i
  | .noReflection id => "no reflection " ++ toString id ++ " in the pool"

/-- What a step answers. -/
inductive Reply where
  | replaced (b : Bool)
  | dropped (b : Bool)
  | registered (size : Nat)
  | gotten (found : Option Target) (size : Nat) (empty : Bool)
  | finished (table : SymbolMap)
  | lookedUp (found : Option Target)
  | released (size : Nat)
  | added (index : Nat) (display : String)
  | bound (written : Bool) (display : String)
  | attempted (outcome : Outcome) (display : String)
  | counted (stats : Stats)
  | shown (t : TypeExpr) (live : Targets)
  | failed (e : Error)
  | refused (m : Misuse)

namespace Session

/-- Whether the pool or the table holds a cell. -/
def holds (s : Session) (cell : Nat) : Bool :=
  s.pool.any (·.2 == cell) || s.table.entries.any (·.2.cell == cell)

/-- The reflections alive in the session, by cell. -/
def targets (s : Session) : Targets := fun cell => if s.holds cell then s.cells[cell]? else none

/-- The cell of the pool reflection with an id. -/
def poolCell (s : Session) (id : Nat) : Option Nat := s.pool.lookup id

/-- The pool reflection with an id, as the table holds it. -/
def poolEntry (s : Session) (id : Nat) : Option Entry := do
  let cell ← s.poolCell id
  let t ← s.cells[cell]?
  pure { cell, target := t }

/-- Writes a reference's slot if it is empty; other expressions stay as they are. -/
def bindSlot (l : Link) : TypeExpr → TypeExpr
  | .reference a n sym args none => .reference a n sym args (some l)
  | t => t

/-- Runs one step: the session afterwards, the answer, and the notes recorded. -/
def step (s : Session) : Step → Session × Reply × List Note
  | .reflection id name kind =>
    let cell := s.cells.size
    let replaced := (s.poolCell id).isSome
    ({ s with cells := s.cells.push { id, name, kind },
              pool := (id, cell) :: s.pool.filter (·.1 != id) }, .replaced replaced, [])
  | .drop id =>
    ({ s with pool := s.pool.filter (·.1 != id) }, .dropped (s.poolCell id).isSome, [])
  | .register symbol id =>
    match s.poolEntry id with
    | none => (s, .refused (.noReflection id), [])
    | some e =>
      if s.frozen then (s, .refused .frozen, [])
      else
        match s.table.register symbol e with
        | .ok t => ({ s with table := t }, .registered t.size, [])
        | .error err => (s, .failed err, s.table.registerNotes symbol e)
  | .get symbol =>
    if s.frozen then (s, .refused .frozen, [])
    else (s, .gotten ((s.table.get symbol).map (·.target)) s.table.size s.table.isEmpty, [])
  | .finish =>
    if s.frozen then (s, .refused .frozen, [])
    else ({ s with frozen := true }, .finished s.table.freeze, [])
  | .lookup symbol =>
    if s.frozen then (s, .lookedUp ((s.table.freeze.lookup symbol).map (·.target)), [])
    else (s, .refused .notFrozen, [])
  | .release => ({ s with table := {}, frozen := false }, .released s.table.size, [])
  | .reference name symbol target array arguments =>
    let slot : Except Misuse (Option Link) := match target with
      | none => .ok none
      | some id => match s.poolEntry id with
        | some e => .ok (some e.link)
        | none => .error (.noReflection id)
    match slot with
    | .error m => (s, .refused m, [])
    | .ok slot =>
      match arguments with
      | .error e => (s, .failed e, [])
      | .ok records =>
        let t := TypeExpr.reference array name symbol (records.map TypeExpr.ofRecord) slot
        let s' := { s with references := s.references.push t }
        (s', .added s.references.size (t.display s'.targets), [])
  | .bind index id =>
    match s.poolEntry id with
    | none => (s, .refused (.noReflection id), [])
    | some e =>
      match s.references[index]? with
      | none => (s, .refused (.noReference index), [])
      | some t =>
        let written := match t with
          | .reference _ _ _ _ none => true
          | _ => false
        let t' := bindSlot e.link t
        let s' := { s with references := s.references.setIfInBounds index t' }
        (s', .bound written (t'.display s'.targets), [])
  | .resolve index =>
    if !s.frozen then (s, .refused .notFrozen, [])
    else
      match s.references[index]? with
      | none => (s, .refused (.noReference index), [])
      | some t =>
        match t.asReference with
        | none => (s, .attempted .alreadyResolved (t.display s.targets), [])
        | some r =>
          let a := r.attempt s.table.freeze s.targets
          let t' := match a.slot with
            | some l => bindSlot l t
            | none => t
          let s' := { s with references := s.references.setIfInBounds index t' }
          (s', .attempted a.outcome (t'.display s'.targets), a.notes)
  | .resolveAll =>
    if !s.frozen then (s, .refused .notFrozen, [])
    else
      let (prog, refs) := s.references.toList.foldl (fun (prog, acc) t =>
        match t.asReference with
        | none => (prog, acc ++ [t])
        | some r =>
          let (prog', slot) := prog.step s.table.freeze s.targets r
          let t' := match slot with
            | some l => bindSlot l t
            | none => t
          (prog', acc ++ [t'])) (({} : Progress), [])
      ({ s with references := refs.toArray }, .counted prog.stats, prog.notes)
  | .show index =>
    match s.references[index]? with
    | none => (s, .refused (.noReference index), [])
    | some t => (s, .shown t s.targets, [])

end Session

end DocLinks
