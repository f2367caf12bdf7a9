import DocLinks.Dump
import DocLinks.Read.Kind
import DocLinks.Read.Record

/-!
Reading dumps from JSON text. Both records may be written as objects or as arrays of their
fields in this order; a field that may be missing takes its default. Unknown keys are passed
over, `null` stands for a missing symbol id, parent or type, and a key written twice is a fault.
-/

namespace DocLinks

open Json Json.Reader

/-- Reads a field of a record that passes over unknown keys: `known` answers the reader of a
known key's value, and a key seen twice is a fault. -/
def lenientField {σ : Type} (seen : σ → String → Bool) (known : σ → String → Option (Reader σ))
    (s : σ) (key : String) : Reader σ :=
  match known s key with
  | none => do colon; skipValue; pure s
  | some r => if seen s key then failData (.duplicateField key) else do colon; r

/-- Takes a field that a record cannot do without. -/
def required {α : Type} (key : String) : Option α → Reader α
  | some a => pure a
  | none => failData (.missingField key)

/-- Takes a field of a record written as an array that cannot be left out. -/
def requiredAt {α : Type} (position : Nat) (expected : String) : Option α → Reader α
  | some a => pure a
  | none => failData (.invalidLength position expected)

namespace Declaration

/-- The fields of a declaration seen so far. -/
structure Fields where
  name : Option String := none
  kind : Option Kind := none
  symbol : Option (Option Int) := none
  parent : Option (Option Nat) := none
  type : Option (Option TypeRecord) := none
  extended : Option (List TypeRecord) := none

/-- Whether a field was seen. -/
def Fields.has (f : Fields) : String → Bool
  | "name" => f.name.isSome
  | "kind" => f.kind.isSome
  | "symbolID" => f.symbol.isSome
  | "parent" => f.parent.isSome
  | "type" => f.type.isSome
  | "extends" => f.extended.isSome
  | _ => false

/-- The reader of each known field. -/
def Fields.reader (f : Fields) : String → Option (Reader Fields)
  | "name" => some do let v ← text; pure { f with name := some v }
  | "kind" => some do let v ← Kind.read; pure { f with kind := some v }
  | "symbolID" => some do let v ← optional int64; pure { f with symbol := some v }
  | "parent" => some do let v ← optional index; pure { f with parent := some v }
  | "type" => some do let v ← optional TypeRecord.read; pure { f with type := some v }
  | "extends" => some do let v ← array "a sequence" TypeRecord.read; pure { f with extended := some v }
  | _ => none

/-- The arity a declaration written as an array is measured against. -/
def arity : String := "struct Declaration with 6 elements"

/-- Reads a declaration. -/
def read : Reader Declaration :=
  record "struct Declaration"
    (do
      let f ← entries (lenientField Fields.has Fields.reader) {}
      let name ← required "name" f.name
      let kind ← required "kind" f.kind
      pure { name, kind, symbol := f.symbol.getD none, parent := f.parent.getD none,
             type := f.type.getD none, extended := f.extended.getD [] })
    (do
      let name ← requiredAt 0 arity (← field true text)
      let kind ← requiredAt 1 arity (← field false Kind.read)
      let symbol ← field false (optional int64)
      let parent ← field false (optional index)
      let type ← field false (optional TypeRecord.read)
      let extended ← field false (array "a sequence" TypeRecord.read)
      pure { name, kind, symbol := symbol.getD none, parent := parent.getD none,
             type := type.getD none, extended := extended.getD [] })

end Declaration

namespace Dump

/-- The arity a dump written as an array is measured against. -/
def arity : String := "struct SymbolDump with 2 elements"

/-- Reads a dump. -/
def read : Reader Dump :=
  record "struct SymbolDump"
    (do
      let (name, decls) ← entries (lenientField
        (fun (n, d) key => if key = "name" then n.isSome else d.isSome)
        (fun (n, d) key =>
          if key = "name" then some do let v ← text; pure (some v, d)
          else if key = "declarations" then
            some do let v ← array "a sequence" Declaration.read; pure (n, some v)
          else none))
        ((none : Option String), (none : Option (List Declaration)))
      let name ← required "name" name
      pure { name, declarations := decls.getD [] })
    (do
      let name ← requiredAt 0 arity (← field true text)
      let decls ← field false (array "a sequence" Declaration.read)
      pure { name, declarations := decls.getD [] })

/-- Reads a dump from a whole text. -/
def ofText (text : String) : Except String Dump := readText read text

end Dump

end DocLinks
