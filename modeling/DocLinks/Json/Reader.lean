import DocLinks.Json.Scan

/-!
Readers of JSON text. A reader moves a cursor through the bytes of the text and answers a
value, or stops at a fault and leaves the cursor where it stopped. The point of a syntax fault
is fixed where it arises: at the cursor, or at the byte after it. A data fault has no point of
its own; the reader of the enclosing value gives it the point where that reader stopped, which
for an array or an object is after its closing bracket when the fault arose after its last
entry, and after the offending key when the key itself was refused.

Arrays and objects nest at most 127 deep; opening the 128th level is a fault at the byte after
its bracket.
-/

namespace DocLinks.Json

/-- Where a reader stands: the bytes still unread, and how many more levels of arrays and
objects may open (one more than that, counting the one that refuses). -/
structure Cursor where
  rest : List UInt8
  depth : Nat

/-- The cursor at the start of a text. -/
def Cursor.start (text : List UInt8) : Cursor := { rest := text, depth := 128 }

/-- A reader of part of a JSON text. -/
abbrev Reader := EStateM Fault Cursor

/-- Gives a fault without a point the point with `left` bytes unread. -/
def Fault.pinnedAt (f : Fault) (left : Nat) : Fault :=
  match f.left with
  | some _ => f
  | none => { f with left := some left }

/-- The judgement of a signed 64-bit integer. -/
def Number.toInt64 : Number → Except DataFault Int
  | .unsigned n => if n < Nat.pow 2 63 then .ok n else .error (.invalidValue (.unsigned n) "i64")
  | .signed i => .ok i
  | .float f => .error (.invalidType (.float f) "i64")

/-- The judgement of an unsigned index. -/
def Number.toIndex : Number → Except DataFault Nat
  | .unsigned n => .ok n
  | .signed i => .error (.invalidValue (.signed i) "usize")
  | .float f => .error (.invalidType (.float f) "usize")

namespace Reader

variable {α β : Type}

/-- The next byte, left unread. -/
def peek : Reader (Option UInt8) := fun c => .ok c.rest.head? c

/-- Passes over the next byte. -/
def bump : Reader Unit := fun c => .ok () { c with rest := c.rest.drop 1 }

/-- Reads the next byte. -/
def next : Reader (Option UInt8) := fun c =>
  match c.rest with
  | [] => .ok none c
  | b :: r => .ok (some b) { c with rest := r }

/-- Stops at a syntax fault at the cursor. -/
def failHere (f : SyntaxFault) : Reader α := fun c =>
  .error { cause := .malformed f, left := some c.rest.length } c

/-- Stops at a syntax fault at the byte after the cursor, or at the end of the text. -/
def failAhead (f : SyntaxFault) : Reader α := fun c =>
  .error { cause := .malformed f, left := some (c.rest.length - 1) } c

/-- Stops at a data fault, whose point the enclosing reader fixes. -/
def failData (f : DataFault) : Reader α := fun c => .error (Fault.ofData f) c

/-- Stops at a data fault pinned to the cursor. -/
def failDataHere (f : DataFault) : Reader α := fun c =>
  .error { cause := .data f, left := some c.rest.length } c

/-- Runs a scanner on the unread bytes. -/
def scan (s : List UInt8 → Scan α) : Reader α := fun c =>
  match s c.rest with
  | .ok (a, r) => .ok a { c with rest := r }
  | .error (f, left) => .error { cause := .malformed f, left := some left } { c with rest := c.rest.drop (c.rest.length - left) }

/-- Runs a skipping scanner on the unread bytes. -/
def skipWith (s : List UInt8 → Except (SyntaxFault × Nat) (List UInt8)) : Reader Unit :=
  scan fun bs => (s bs).map fun r => ((), r)

/-- The bytes after leading blanks: spaces, tabs, line feeds and carriage returns. -/
def dropBlanks : List UInt8 → List UInt8
  | [] => []
  | b :: r => if b = 32 ∨ b = 10 ∨ b = 9 ∨ b = 13 then dropBlanks r else b :: r

/-- Passes over blanks and answers the next byte, left unread. -/
def blank : Reader (Option UInt8) := fun c =>
  let r := dropBlanks c.rest
  .ok r.head? { c with rest := r }

/-- Reads the rest of a literal word after its first byte. -/
def word : List UInt8 → Reader Unit
  | [] => pure ()
  | b :: bs => do
    match ← next with
    | none => failHere .eofInValue
    | some x => if x = b then word bs else failHere .expectedIdent

/-- Gives a fault without a point the point where the reader stopped. -/
def pinned (r : Reader α) : Reader α := fun c =>
  match r c with
  | .ok a c' => .ok a c'
  | .error f c' => .error (f.pinnedAt c'.rest.length) c'

/-- Runs `body`, then `close` whatever became of it; a fault of `body` wins over one of
`close`. -/
def closing (body : Reader α) (close : Reader Unit) : Reader α := fun c =>
  match body c with
  | .ok a c' =>
    match close c' with
    | .ok () c'' => .ok a c''
    | .error f c'' => .error f c''
  | .error f c' =>
    match close c' with
    | .ok () c'' => .error f c''
    | .error _ c'' => .error f c''

/-- Opens one more level of nesting for `body`, which starts at an opening bracket; the level
past the limit is refused at the byte after the bracket. -/
def nested (body : Reader α) : Reader α := fun c =>
  if c.depth ≤ 1 then .error { cause := .malformed .recursionLimitExceeded, left := some (c.rest.length - 1) } c
  else
    match body { c with depth := c.depth - 1 } with
    | .ok a c' => .ok a { c' with depth := c.depth }
    | .error f c' => .error f { c' with depth := c.depth }

/-- The closing bracket of an array, after its elements. -/
def endArray : Reader Unit := do
  match ← blank with
  | some 93 => bump
  | some 44 =>
    bump
    match ← blank with
    | some 93 => failAhead .trailingComma
    | _ => failAhead .trailingCharacters
  | some _ => failAhead .trailingCharacters
  | none => failAhead .eofInList

/-- The closing brace of an object, after its entries. -/
def endObject : Reader Unit := do
  match ← blank with
  | some 125 => bump
  | some 44 => failAhead .trailingComma
  | some _ => failAhead .trailingCharacters
  | none => failAhead .eofInObject

/-- Whether another element follows in an array; `first` tells whether none was read yet. -/
def hasElement (first : Bool) : Reader Bool := do
  match ← blank with
  | none => failAhead .eofInList
  | some 93 => pure false
  | some b =>
    if first then pure true
    else if b = 44 then
      bump
      match ← blank with
      | some 93 => failAhead .trailingComma
      | some _ => pure true
      | none => failAhead .eofInValue
    else failAhead .expectedListCommaOrEnd

/-- Whether another entry follows in an object, standing at its key's quote. -/
def hasEntry (first : Bool) : Reader Bool := do
  match ← blank with
  | none => failAhead .eofInObject
  | some 125 => pure false
  | some b =>
    if first then
      if b = 34 then pure true else failAhead .keyMustBeString
    else if b = 44 then
      bump
      match ← blank with
      | some 34 => pure true
      | some 125 => failAhead .trailingComma
      | some _ => failAhead .keyMustBeString
      | none => failAhead .eofInValue
    else failAhead .expectedObjectCommaOrEnd

/-- Reads a string from its opening quote. -/
def string : Reader String := do
  bump
  scan scanString

/-- The colon between a key and its value. -/
def colon : Reader Unit := do
  match ← blank with
  | some 58 => bump
  | some _ => failAhead .expectedColon
  | none => failAhead .eofInObject

/-- Reads a number from its sign or first digit. -/
def number : Reader Number := do
  match ← peek with
  | some 45 => bump; scan (scanNumber false)
  | _ => scan (scanNumber true)

/-- Reads the value at the cursor only to name it in a fault: a scalar is read whole and named,
an array or object is named without being read. A value that is none of these is a syntax
fault at the byte after the cursor. -/
def wrongValue (expected : String) : Reader α := do
  match ← peek with
  | some 110 => bump; word [117, 108, 108]; failDataHere (.invalidType .null expected)
  | some 116 => bump; word [114, 117, 101]; failDataHere (.invalidType (.bool true) expected)
  | some 102 => bump; word [97, 108, 115, 101]; failDataHere (.invalidType (.bool false) expected)
  | some 45 => let n ← number; failDataHere (.invalidType n.found expected)
  | some 34 => let s ← string; failDataHere (.invalidType (.string s) expected)
  | some 91 => failDataHere (.invalidType .sequence expected)
  | some 123 => failDataHere (.invalidType .map expected)
  | some b =>
    if isDigit b then do let n ← number; failDataHere (.invalidType n.found expected)
    else failAhead .expectedValue
  | none => failAhead .expectedValue

/-- The next value after blanks must start; the end of the text is a fault. -/
def start : Reader UInt8 := do
  match ← blank with
  | some b => pure b
  | none => failAhead .eofInValue

/-- Reads a boolean. -/
def bool : Reader Bool := pinned do
  match ← start with
  | 116 => bump; word [114, 117, 101]; pure true
  | 102 => bump; word [97, 108, 115, 101]; pure false
  | _ => wrongValue "a boolean"

/-- Reads a string value. -/
def text : Reader String := pinned do
  match ← start with
  | 34 => string
  | _ => wrongValue "a string"

/-- Reads a number and lets `accept` judge it; its refusal is pinned after the number. -/
def numberWith (expected : String) (accept : Number → Except DataFault α) : Reader α := pinned do
  let b ← start
  if b = 45 ∨ isDigit b then
    let n ← number
    match accept n with
    | .ok a => pure a
    | .error f => failData f
  else wrongValue expected

/-- Reads a signed 64-bit integer. -/
def int64 : Reader Int := numberWith "i64" Number.toInt64

/-- Reads an unsigned index. -/
def index : Reader Nat := numberWith "usize" Number.toIndex

/-- Reads `null` as `none`, and anything else with `r`. -/
def optional (r : Reader α) : Reader (Option α) := do
  match ← blank with
  | some 110 => bump; word [117, 108, 108]; pure none
  | _ => some <$> r

/-- Reads the elements of an array, after its opening bracket, with `elem`. -/
def elements (elem : Reader α) : Reader (List α) := fun c =>
  go (c.rest.length + 1) true [] c
where
  go : Nat → Bool → List α → Reader (List α)
    | 0, _, acc => pure acc.reverse
    | fuel + 1, first, acc => do
      if ← hasElement first then
        let a ← elem
        go fuel false (a :: acc)
      else pure acc.reverse

/-- Reads an array with `elem`; any other value is refused as not `expected`. -/
def array (expected : String) (elem : Reader α) : Reader (List α) := pinned do
  match ← start with
  | 91 => nested (do bump; closing (elements elem) endArray)
  | _ => wrongValue expected

/-- Reads a record written as an object or as an array of its fields: `ofObject` reads the
entries after the opening brace, `ofArray` the elements after the opening bracket. -/
def record (expected : String) (ofObject : Reader α) (ofArray : Reader α) : Reader α := pinned do
  match ← start with
  | 123 => nested (do bump; closing ofObject endObject)
  | 91 => nested (do bump; closing ofArray endArray)
  | _ => wrongValue expected

/-- Reads a record that is written as an object only. -/
def objectOnly (expected : String) (ofObject : Reader α) : Reader α := pinned do
  match ← start with
  | 123 => nested (do bump; closing ofObject endObject)
  | _ => wrongValue expected

/-- Runs `onEntry` on each key of an object, after its opening brace, threading `state`;
`onEntry` reads the colon and the value. -/
def entries (onEntry : β → String → Reader β) (state : β) : Reader β := fun c =>
  go (c.rest.length + 1) true state c
where
  go : Nat → Bool → β → Reader β
    | 0, _, s => pure s
    | fuel + 1, first, s => do
      if ← hasEntry first then
        let key ← string
        let s' ← onEntry s key
        go fuel false s'
      else pure s

/-- Reads the next field of a record written as an array, if the array goes on. -/
def field (first : Bool) (r : Reader α) : Reader (Option α) := do
  if ← hasElement first then some <$> r else pure none

/-- Skips a value of any form, checking its syntax; arrays and objects may nest without
limit here. -/
def skipValue : Reader Unit := fun c => go (4 * c.rest.length + 4) [] c
where
  /-- Skips one scalar or opens one bracket, then closes what the value completes; `open` holds
  the brackets still open, innermost first. -/
  go : Nat → List UInt8 → Reader Unit
    | 0, _ => failHere .eofInValue
    | fuel + 1, opened => do
      let b ← start
      let opened' ← (match b with
        | 110 => do bump; word [117, 108, 108]; pure none
        | 116 => do bump; word [114, 117, 101]; pure none
        | 102 => do bump; word [97, 108, 115, 101]; pure none
        | 45 => do bump; skipWith skipNumber; pure none
        | 34 => do bump; skipWith skipString; pure none
        | 91 => do bump; pure (some (91 :: opened))
        | 123 => do bump; pure (some (123 :: opened))
        | _ => if isDigit b then do skipWith skipNumber; pure none else failAhead .expectedValue)
      match opened' with
      | some stack => afterOpen fuel stack
      | none => afterScalar fuel opened
  /-- After a bracket opened: an empty array or object closes at once. -/
  afterOpen : Nat → List UInt8 → Reader Unit
    | 0, _ => failHere .eofInValue
    | fuel + 1, stack => do
      match stack with
      | [] => pure ()
      | frame :: outer =>
        match ← blank with
        | some 93 => if frame = 91 then do bump; afterScalar fuel outer else afterOpenEntry fuel stack
        | some 125 => if frame = 123 then do bump; afterScalar fuel outer else afterOpenEntry fuel stack
        | some _ => afterOpenEntry fuel stack
        | none => failAhead (if frame = 91 then .eofInList else .eofInObject)
  /-- After a value inside the innermost open bracket: a comma goes on, a bracket closes. -/
  afterScalar : Nat → List UInt8 → Reader Unit
    | 0, _ => failHere .eofInValue
    | fuel + 1, stack =>
      match stack with
      | [] => pure ()
      | frame :: outer => do
        match ← blank with
        | some 44 => bump; afterOpenEntry fuel stack
        | some 93 =>
          if frame = 91 then do bump; afterScalar fuel outer
          else failAhead .expectedObjectCommaOrEnd
        | some 125 =>
          if frame = 123 then do bump; afterScalar fuel outer
          else failAhead .expectedListCommaOrEnd
        | some _ => failAhead (if frame = 91 then .expectedListCommaOrEnd else .expectedObjectCommaOrEnd)
        | none => failAhead (if frame = 91 then .eofInList else .eofInObject)
  /-- Before the next element, or the next key and its colon. -/
  afterOpenEntry : Nat → List UInt8 → Reader Unit
    | 0, _ => failHere .eofInValue
    | fuel + 1, stack =>
      match stack with
      | [] => pure ()
      | frame :: _ => do
        if frame = 123 then
          match ← blank with
          | some 34 => bump
          | some _ => failAhead .keyMustBeString
          | none => failAhead .eofInObject
          skipWith skipString
          match ← blank with
          | some 58 => bump
          | some _ => failAhead .expectedColon
          | none => failAhead .eofInObject
        go fuel stack

/-- Reads a variant name as a string; anything else is refused as not a variant identifier. -/
def variantName {α : Type} (decode : String → Except DataFault α) : Reader α := pinned do
  match ← start with
  | 34 =>
    let s ← string
    match decode s with
    | .ok a => pure a
    | .error f => failData f
  | _ => wrongValue "variant identifier"

/-- Reads the key of an object that names a variant: a string read as by `variantName`; an
object closed at once has no value to read, and any other start is not a key. -/
def variantKey {α : Type} (decode : String → Except DataFault α) : Reader α := do
  match ← blank with
  | some 34 | some 125 => variantName decode
  | some _ => failAhead .keyMustBeString
  | none => failAhead .eofInObject

/-- The end of the text: only blanks may follow the value. -/
def finish : Reader Unit := do
  match ← blank with
  | some _ => failAhead .trailingCharacters
  | none => pure ()

end Reader

/-- Reads a whole text with `r`, which must leave only blanks; a fault comes with its
message. -/
def readText {α : Type} (r : Reader α) (text : String) : Except String α :=
  let bytes := text.toUTF8.toList
  match (do let a ← r; Reader.finish; pure a) (Cursor.start bytes) with
  | .ok a _ => .ok a
  | .error f _ => .error (f.message bytes)

end DocLinks.Json
