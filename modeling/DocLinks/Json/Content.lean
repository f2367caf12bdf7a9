import DocLinks.Json.Reader

/-!
Values of JSON text held whole, before they are known to be any record: numbers keep their
kind, objects keep every entry in the order written, repeated keys included. A record read from
such a value refuses it with a data fault that has no point of its own.
-/

namespace DocLinks.Json

/-- A JSON value read whole. -/
inductive Content where
  | null
  | bool (b : Bool)
  | number (n : Number)
  | string (s : String)
  | array (items : List Content)
  | object (entries : List (String × Content))

/-- How a value is named when it is not what was expected. -/
def Content.found : Content → Found
  | .null => .null
  | .bool b => .bool b
  | .number n => n.found
  | .string s => .string s
  | .array _ => .sequence
  | .object _ => .map

namespace Content

/-- Refuses a value as not `expected`. -/
def refuse {α : Type} (c : Content) (expected : String) : Except DataFault α :=
  .error (.invalidType c.found expected)

/-- A boolean. -/
def asBool : Content → Except DataFault Bool
  | .bool b => .ok b
  | c => c.refuse "a boolean"

/-- A string. -/
def asString : Content → Except DataFault String
  | .string s => .ok s
  | c => c.refuse "a string"

/-- A signed 64-bit integer; a number of another kind is judged as the text reader judges
it, and anything else is refused as not `i64`. -/
def asInt64 : Content → Except DataFault Int
  | .number (.float f) => .error (.invalidType (.float f) "i64")
  | .number n => n.toInt64
  | c => c.refuse "i64"

/-- An unsigned index. -/
def asIndex : Content → Except DataFault Nat
  | .number (.float f) => .error (.invalidType (.float f) "usize")
  | .number n => n.toIndex
  | c => c.refuse "usize"

/-- `null` as `none`, anything else through `f`. -/
def asOption {α : Type} (f : Content → Except DataFault α) : Content → Except DataFault (Option α)
  | .null => .ok none
  | c => some <$> f c

/-- The items of an array. -/
def asArray : Content → Except DataFault (List Content)
  | .array items => .ok items
  | c => c.refuse "a sequence"

/-- The value of the last entry with key `k`, the one a keyed table of the entries keeps. -/
def lookup (entries : List (String × Content)) (k : String) : Option Content :=
  entries.foldl (fun found (key, v) => if key = k then some v else found) none

end Content

namespace Reader

/-- Reads any value; `budget` bounds its nesting, which the cursor's depth already bounds
more tightly. -/
def anyValue : Nat → Reader Content
  | 0 => failHere .recursionLimitExceeded
  | budget + 1 => pinned do
    match ← start with
    | 110 => bump; word [117, 108, 108]; pure .null
    | 116 => bump; word [114, 117, 101]; pure (.bool true)
    | 102 => bump; word [97, 108, 115, 101]; pure (.bool false)
    | 34 => .string <$> string
    | 91 => nested do
      bump
      closing (.array <$> elements (anyValue budget)) endArray
    | 123 => nested do
      bump
      closing
        (.object <$> (List.reverse <$> entries
          (fun acc key => do colon; let v ← anyValue budget; pure ((key, v) :: acc)) []))
        endObject
    | b => if b = 45 ∨ isDigit b then .number <$> number else failAhead .expectedValue

/-- Reads any value within the nesting limit. -/
def content : Reader Content := anyValue 130

end Reader

end DocLinks.Json
