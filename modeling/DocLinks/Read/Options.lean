import DocLinks.Json.Content
import DocLinks.Options

/-!
Reading options from JSON text: an object with the keys `parallel` and `serialize`, or an array
of those fields in that order; a missing field keeps its default, and an unknown key is a fault.
The record extras are read the same way, with the keys `typeArguments` and `targets`.
-/

namespace DocLinks

open Json Json.Reader

/-- Reads a field of an object whose keys are all known, threading the fields seen so far:
`known` answers the reader of a known key's value, and a key seen twice is a fault. -/
def knownField {σ : Type} (fields : List String) (seen : σ → String → Bool)
    (known : σ → String → Option (Reader σ)) (s : σ) (key : String) : Reader σ :=
  match known s key with
  | none => failData (.unknownField key fields)
  | some r => if seen s key then failData (.duplicateField key) else do colon; r

namespace RecordOptions

/-- The keys of record extras. -/
def fields : List String := ["typeArguments", "targets"]

/-- Reads record extras from an object or an array. -/
def read : Reader RecordOptions :=
  record "struct SerializeOptions"
    (do
      let (a, t) ← entries (knownField fields
        (fun (a, t) key => if key = "typeArguments" then a.isSome else t.isSome)
        (fun (a, t) key =>
          if key = "typeArguments" then some (do let b ← bool; pure (some b, t))
          else if key = "targets" then some (do let b ← bool; pure (a, some b))
          else none)) ((none : Option Bool), (none : Option Bool))
      pure { typeArguments := a.getD false, targets := t.getD false })
    (do
      let a ← field true bool
      let t ← field a.isNone bool
      pure { typeArguments := a.getD false, targets := t.getD false })

end RecordOptions

namespace Options

/-- The keys of options. -/
def fields : List String := ["parallel", "serialize"]

/-- Reads options from an object or an array. -/
def read : Reader Options :=
  record "struct Options"
    (do
      let (p, s) ← entries (knownField fields
        (fun (p, s) key => if key = "parallel" then p.isSome else s.isSome)
        (fun (p, s) key =>
          if key = "parallel" then some (do let b ← bool; pure (some b, s))
          else if key = "serialize" then some (do let r ← RecordOptions.read; pure (p, some r))
          else none)) ((none : Option Bool), (none : Option RecordOptions))
      pure { parallel := p.getD false, serialize := s.getD {} })
    (do
      let p ← field true bool
      let s ← field p.isNone RecordOptions.read
      pure { parallel := p.getD false, serialize := s.getD {} })

/-- Reads options from a whole text. -/
def ofText (text : String) : Except String Options := readText read text

end Options

end DocLinks
