import DocLinks.Json.Content
import DocLinks.Reflection.Kind

/-!
Reading kinds. A kind is read from its camel-case name, or from an object whose one key is the
name and whose value is `null`.
-/

namespace DocLinks

open Json

namespace Kind

/-- The names of all kinds, as a fault lists them. -/
def names : List String := all.map name

/-- The kind with a given name. -/
def ofName? (s : String) : Option Kind := all.find? (·.name = s)

/-- The kind with a given name, or the fault of an unknown one. -/
def ofName (s : String) : Except DataFault Kind :=
  match ofName? s with
  | some k => .ok k
  | none => .error (.unknownVariant s names)

/-- A kind from a value held whole: its name, or an object with its name as the only key and
`null` as the value. -/
def ofContent : Content → Except DataFault Kind
  | .string s => ofName s
  | .object entries =>
    -- a repeated key counts once, with its last value
    match (entries.map (·.1)).eraseDups with
    | [key] => do
      let k ← ofName key
      match Content.lookup entries key with
      | some .null => pure k
      | some other => .error (.invalidType other.found "unit")
      | none => pure k
    | _ => .error (.invalidValue .map "map with a single key")
  | c => .error (.invalidType c.found "string or map")

open Json.Reader

/-- Reads a kind: its name, or an object with the name as its one key and `null` as its
value. -/
def read : Reader Kind := do
  match ← blank with
  | some 34 => variantName Kind.ofName
  | some 123 => nested do
    bump
    let k ← variantKey Kind.ofName
    colon
    pinned do
      match ← start with
      | 110 => bump; word [117, 108, 108]
      | _ => wrongValue "unit"
    match ← blank with
    | some 125 => bump; pure k
    | some _ => failHere .expectedValue
    | none => failHere .eofInObject
  | some _ => failAhead .expectedValue
  | none => failAhead .eofInValue

end Kind

end DocLinks
