import DocLinks.Types.Expr
import DocLinks.Error
import DocLinks.Journal
import DocLinks.Json.Value

/-!
The symbol table: which reflection documents each symbol id. It is filled while declarations
are converted and then frozen; only a frozen table answers the resolving pass. A symbol keeps
the reflection first registered for it, and a sentinel id cannot be registered at all. The
entries are kept in increasing order of symbol id, the order in which they are written out.
-/

namespace DocLinks

/-- A reflection as the table holds it: the cell where it is kept, and what a reference bound
to it sees. -/
structure Entry where
  cell : Nat
  target : Target
  deriving DecidableEq, Repr

/-- The link a reference bound to the entry's reflection holds. -/
def Entry.link (e : Entry) : Link := { id := e.target.id, cell := e.cell }

/-- Inserts an entry into a list kept in increasing order of symbol id. -/
def insertBySymbol (s : Int) (e : Entry) : List (Int × Entry) → List (Int × Entry)
  | [] => [(s, e)]
  | (s', e') :: rest => if s < s' then (s, e) :: (s', e') :: rest else (s', e') :: insertBySymbol s e rest

/-- The symbol table while it is being filled. -/
structure SymbolTable where
  entries : List (Int × Entry) := []
  deriving Inhabited

namespace SymbolTable

/-- The reflection registered so far for a symbol. -/
def get (t : SymbolTable) (s : Int) : Option Entry := (t.entries.lookup s)

/-- The number of registered symbols. -/
def size (t : SymbolTable) : Nat := t.entries.length

/-- Whether no symbol is registered. -/
def isEmpty (t : SymbolTable) : Bool := t.entries.isEmpty

/-- Registers a reflection for a symbol: a sentinel id is refused first, then a symbol that is
already registered; otherwise the symbol maps to the reflection from now on. -/
def register (t : SymbolTable) (s : Int) (e : Entry) : Except Error SymbolTable :=
  if isSentinel s then .error (.sentinelSymbol e.target.id)
  else
    match t.get s with
    | some existing => .error (.duplicateSymbol s existing.target.id)
    | none => .ok { entries := insertBySymbol s e t.entries }

/-- The warning that registering a symbol a second time records. -/
def registerNotes (t : SymbolTable) (s : Int) (e : Entry) : List Note :=
  if isSentinel s then []
  else
    match t.get s with
    | some x =>
      [{ level := .warn,
         text := "symbol " ++ toString s ++ " already maps to #" ++ toString x.target.id ++ " (" ++
           x.target.name ++ "), ignoring #" ++ toString e.target.id ++ " (" ++ e.target.name ++ ")" }]
    | none => []

end SymbolTable

/-- The symbol table once it is frozen. -/
structure SymbolMap where
  table : SymbolTable
  deriving Inhabited

/-- Freezes a table. -/
def SymbolTable.freeze (t : SymbolTable) : SymbolMap := { table := t }

namespace SymbolMap

/-- The reflection registered for a symbol. -/
def lookup (m : SymbolMap) (s : Int) : Option Entry := m.table.get s

/-- The number of registered symbols. -/
def size (m : SymbolMap) : Nat := m.table.size

/-- Whether no symbol is registered. -/
def isEmpty (m : SymbolMap) : Bool := m.table.isEmpty

/-- Symbol ids with the ids of their reflections, in increasing order of symbol id. -/
def mapping (m : SymbolMap) : List (Int × Nat) := m.table.entries.map fun (s, e) => (s, e.target.id)

/-- The mapping as an object keyed by the decimal symbol id. -/
def mappingJson (m : SymbolMap) : Json :=
  .obj (m.mapping.map fun (s, id) => (toString s, .int id))

end SymbolMap

end DocLinks
