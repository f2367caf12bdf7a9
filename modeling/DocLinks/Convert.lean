import DocLinks.Dump
import DocLinks.Project

/-!
Conversion of a dump into a project. Declarations become reflections one at a time, in order,
the reflection of declaration `i` getting id `i`. A declaration is refused, and conversion stops
there, when its name is empty, when its parent is not an earlier declaration, or when a
reference in its declared type or the types it extends has an empty name, in that order.

A reference to a symbol that an earlier declaration registered is bound on the spot, to the
first reflection registered for it; a declaration's own symbol is registered only after its
types are built. A sentinel or repeated symbol is not registered, and conversion records that
and goes on.
-/

namespace DocLinks

/-- A project being converted. -/
structure Builder where
  name : String
  reflections : Array Reflection := #[]
  symbols : SymbolTable := {}
  /-- Registrations refused without stopping the conversion. -/
  skipped : List Error := []
  notes : List Note := []
  deriving Inhabited

namespace Builder

/-- The number of reflections added so far. -/
def size (b : Builder) : Nat := b.reflections.size

/-- Whether no reflection was added. -/
def isEmpty (b : Builder) : Bool := b.reflections.isEmpty

/-- Builds a declaration's type, binding references to symbols registered so far. -/
def buildType (b : Builder) (index : Nat) (r : TypeRecord) : Except Error TypeExpr :=
  if r.hasEmptyReferenceName then .error (.emptyReferenceName index)
  else .ok (TypeExpr.ofRecordWith (fun s => (b.symbols.get s).map (·.link)) r)

/-- Refuses declaration `index` when its name is empty, or else when its parent is not an earlier
declaration. -/
def check (index : Nat) (d : Declaration) : Except Error Unit := do
  if d.name.isEmpty then throw (.emptyName index)
  if let some p := d.parent then
    if p ≥ index then throw (.invalidParent index d.name p)

/-- Adds the reflection of a declaration whose types are built, then registers the declaration's
symbol for it; a refused registration that is recoverable is recorded and passed over. -/
def push (b : Builder) (d : Declaration) (ty : Option TypeExpr) (ext : List TypeExpr) :
    Except Error Builder :=
  let r : Reflection :=
    { id := b.size, name := d.name, kind := d.kind, parent := d.parent, type := ty, extended := ext }
  let b := { b with reflections := b.reflections.push r }
  match d.symbol with
  | none => pure b
  | some s =>
    let entry : Entry := { cell := r.id, target := r.target }
    match b.symbols.register s entry with
    | .ok t => pure { b with symbols := t }
    | .error e =>
      if e.recoverable then
        pure { b with skipped := b.skipped ++ [e],
                      notes := b.notes ++ b.symbols.registerNotes s entry ++ [⟨.warn, d.name ++ ": " ++ e.message⟩] }
      else throw e

/-- Converts declaration `index`. -/
def add (b : Builder) (index : Nat) (d : Declaration) : Except Error Builder := do
  check index d
  let ty ← d.type.mapM (b.buildType index)
  let ext ← d.extended.mapM (b.buildType index)
  b.push d ty ext

/-- Converts declarations in order from `index` on, stopping at the first refused one; answers
the builder where it stopped, and the failure if there was one. -/
def addAll (b : Builder) (index : Nat) : List Declaration → Builder × Option Error
  | [] => (b, none)
  | d :: ds =>
    match b.add index d with
    | .ok b' => b'.addAll (index + 1) ds
    | .error e => (b, some e)

/-- The line recorded once all declarations are converted. -/
def summaryNote (b : Builder) : Note :=
  ⟨.debug, "converted " ++ toString b.size ++ " declarations, " ++ toString b.symbols.size ++
    " symbols registered, " ++ toString b.skipped.length ++ " registrations skipped"⟩

/-- Freezes the model and its symbol table. -/
def finish (b : Builder) : Project :=
  { name := b.name, reflections := b.reflections, symbols := b.symbols.freeze }

end Builder

/-- The outcome of a conversion: the builder with everything converted, or the failure; and
the notes recorded either way. -/
structure Conversion where
  result : Except Error Builder
  notes : List Note

/-- Converts a whole dump. -/
def Dump.convert (dump : Dump) : Conversion :=
  match ({ name := dump.name } : Builder).addAll 0 dump.declarations with
  | (b, none) => { result := .ok b, notes := b.notes ++ [b.summaryNote] }
  | (b, some e) => { result := .error e, notes := b.notes }

end DocLinks
