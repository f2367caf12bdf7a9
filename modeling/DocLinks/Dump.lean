import DocLinks.Types.Record

/-!
Symbol dumps: what the compiler front end exports. A dump has a project name and declarations
in traversal order; a declaration has a name, a kind, and optionally a symbol id, the index of
its parent declaration, a declared type, and the types it extends.
-/

namespace DocLinks

/-- One declaration of a dump. -/
structure Declaration where
  name : String
  kind : Kind
  symbol : Option Int := none
  parent : Option Nat := none
  type : Option TypeRecord := none
  extended : List TypeRecord := []
  deriving Inhabited

/-- A front-end export. -/
structure Dump where
  name : String
  declarations : List Declaration := []
  deriving Inhabited

end DocLinks
