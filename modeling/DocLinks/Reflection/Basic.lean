import DocLinks.Types.Record

/-!
Reflections: the documentation objects of declarations. A reflection has the id it is known by
in its project, a name, a kind, an optional parent, an optional declared type, and the types it
extends. Its record lists `id`, `name` and `kind`, then `parent` and `type` when present and
`extendedTypes` when there are any.
-/

namespace DocLinks

/-- The documentation object of one declaration. -/
structure Reflection where
  id : Nat
  name : String
  kind : Kind
  parent : Option Nat := none
  type : Option TypeExpr := none
  extended : List TypeExpr := []
  deriving Inhabited

namespace Reflection

/-- What a reference bound to the reflection sees of it. -/
def target (r : Reflection) : Target := { id := r.id, name := r.name, kind := r.kind }

/-- The type expressions a reflection holds: its declared type, then the types it extends. -/
def types (r : Reflection) : List TypeExpr := r.type.toList ++ r.extended

/-- Every reference the reflection holds, in walk order. -/
def references (r : Reflection) : List Reference := TypeExpr.referencesAll r.types

/-- The record of a reflection. -/
def toJson (opts : RecordOptions) (live : Targets) (r : Reflection) : Json :=
  .obj ([("id", .int r.id), ("name", .str r.name), ("kind", .str r.kind.name)] ++
    (match r.parent with
      | some p => [("parent", .int p)]
      | none => []) ++
    (match r.type with
      | some t => [("type", (t.toRecord opts live).toJson)]
      | none => []) ++
    (if r.extended.isEmpty then []
      else [("extendedTypes", .arr (r.extended.map fun t => (t.toRecord opts live).toJson))]))

/-- The lines a reflection renders to: `name: type` if it has a type, then `name extends base`
for each type it extends. -/
def render (live : Targets) (r : Reflection) : List String :=
  (match r.type with
    | some t => [r.name ++ ": " ++ t.display live]
    | none => []) ++
  r.extended.map fun t => r.name ++ " extends " ++ t.display live

end Reflection

end DocLinks
