import DocLinks.Json.Content
import DocLinks.Types.Record
import DocLinks.Error

/-!
Reading records. A record's `isArray` is read first, as its entries come; the other entries are
held whole. Among them the `type` tag names the form, by name or by its index among the forms,
and the form's fields are read from the remaining entries in the order written. Unknown keys
are passed over, and a key written twice is a fault.

A record nested in another is read from a value held whole, so its faults have no point of
their own: they are pinned after the outermost record read from the text.
-/

namespace DocLinks

open Json

namespace TypeRecord

/-- The tags of the forms, in index order. -/
def tags : List String := ["intrinsic", "reference", "union", "tuple", "unknown"]

/-- The index of the form a `type` tag names. -/
def tagIndex : Content → Except DataFault Nat
  | .string s =>
    match tags.idxOf? s with
    | some i => .ok i
    | none => .error (.unknownVariant s tags)
  | .number (.unsigned n) =>
    if n < 5 then .ok n else .error (.invalidValue (.unsigned n) "variant index 0 <= i < 5")
  | c => .error (.invalidType c.found "variant identifier")

/-- Takes the `type` tag out of the entries, decoding it where it stands; answers the form's
index and the other entries in order. -/
def splitTag : List (String × Content) → Option Nat → List (String × Content) →
    Except DataFault (Nat × List (String × Content))
  | [], none, _ => .error (.missingField "type")
  | [], some t, acc => .ok (t, acc.reverse)
  | (k, v) :: rest, tag, acc =>
    if k = "type" then
      match tag with
      | some _ => .error (.duplicateField "type")
      | none => do
        let t ← tagIndex v
        splitTag rest (some t) acc
    else splitTag rest tag ((k, v) :: acc)

/-- Reads field `key` of a form: a second occurrence is a fault, the first is decoded. -/
def takeField {α : Type} (key : String) (seen : Option α) (decode : Except DataFault α) :
    Except DataFault (Option α) :=
  match seen with
  | some _ => .error (.duplicateField key)
  | none => some <$> decode

/-- The `name` of an intrinsic or unknown form. -/
def nameOf (entries : List (String × Content)) : Except DataFault String := do
  let name ← entries.foldlM (fun seen (k, v) =>
    if k = "name" then takeField "name" seen v.asString else pure seen) none
  match name with
  | some n => pure n
  | none => .error (.missingField "name")

/-- The list of records under key `key` of a union or tuple. -/
def membersOf (nested : Content → Except DataFault TypeRecord) (key : String)
    (entries : List (String × Content)) : Except DataFault (List TypeRecord) := do
  let members ← entries.foldlM (fun seen (k, v) =>
    if k = key then takeField key seen (do let items ← v.asArray; items.mapM nested)
    else pure seen) none
  match members with
  | some ms => pure ms
  | none => .error (.missingField key)

/-- The fields of a reference form seen so far. -/
structure ReferenceFields where
  name : Option String := none
  symbol : Option Int := none
  arguments : Option (Option (List TypeRecord)) := none
  target : Option (Option Nat) := none

/-- The fields of a reference form. -/
def referenceOf (nested : Content → Except DataFault TypeRecord) (array : Bool)
    (entries : List (String × Content)) : Except DataFault TypeRecord := do
  let fields ← entries.foldlM (fun (f : ReferenceFields) (k, v) =>
    if k = "name" then do
      let n ← takeField "name" f.name v.asString
      pure { f with name := n }
    else if k = "symbolID" then do
      let s ← takeField "symbolID" f.symbol v.asInt64
      pure { f with symbol := s }
    else if k = "typeArguments" then do
      let a ← takeField "typeArguments" f.arguments
        (v.asOption fun c => do let items ← c.asArray; items.mapM nested)
      pure { f with arguments := a }
    else if k = "target" then do
      let t ← takeField "target" f.target (v.asOption Content.asIndex)
      pure { f with target := t }
    else pure f) {}
  let name ← match fields.name with
    | some n => pure n
    | none => .error (.missingField "name")
  let symbol ← match fields.symbol with
    | some s => pure s
    | none => .error (.missingField "symbolID")
  pure (.reference array name symbol (fields.arguments.getD none) (fields.target.getD none))

/-- The form named by the `type` tag among the entries other than `isArray`. -/
def ofForm (nested : Content → Except DataFault TypeRecord) (array : Bool)
    (entries : List (String × Content)) : Except DataFault TypeRecord := do
  let (form, rest) ← splitTag entries none []
  match form with
  | 0 => return .intrinsic array (← nameOf rest)
  | 1 => referenceOf nested array rest
  | 2 => return .union array (← membersOf nested "types" rest)
  | 3 => return .tuple array (← membersOf nested "elements" rest)
  | _ => return .unknown array (← nameOf rest)

/-- Reads `isArray` among the entries, in order, and keeps the others. -/
def splitArrayFlag (entries : List (String × Content)) :
    Except DataFault (Option Bool × List (String × Content)) := do
  let (flag, rest) ← entries.foldlM (fun (flag, acc) (k, v) =>
    if k = "isArray" then do
      let b ← takeField "isArray" flag v.asBool
      pure (b, acc)
    else pure (flag, (k, v) :: acc)) (none, [])
  pure (flag, rest.reverse)

/-- A record from a value held whole; `fuel` bounds the nesting of records. -/
def ofContent : Nat → Content → Except DataFault TypeRecord
  | 0, c => .error (.invalidType c.found "struct TypeObject")
  | fuel + 1, .object entries => do
    let (flag, rest) ← splitArrayFlag entries
    ofForm (ofContent fuel) (flag.getD false) rest
  | _ + 1, c => .error (.invalidType c.found "struct TypeObject")

/-- Nesting of records deeper than any text within the nesting limit can hold. -/
def nestingBound : Nat := 130

open Json.Reader in
/-- Reads a record from the text. -/
def read : Reader TypeRecord := objectOnly "struct TypeObject" do
  let (flag, rest) ← entries (fun (flag, acc) key =>
      if key = "isArray" then
        match flag with
        | some _ => failData (.duplicateField "isArray")
        | none => do
          colon
          let b ← bool
          pure (some b, acc)
      else do
        colon
        let v ← content
        pure (flag, (key, v) :: acc)) (none, [])
  match ofForm (ofContent nestingBound) (flag.getD false) rest.reverse with
  | .ok r => pure r
  | .error f => failData f

/-- Reads a record from a whole text. -/
def ofText (text : String) : Except String TypeRecord := readText read text

/-- Reads records from texts, in order, or the failure of the first text that is not one. -/
def ofTexts (texts : List String) : Except Error (List TypeRecord) :=
  texts.mapM (ofJsonText ofText)

end TypeRecord

end DocLinks
