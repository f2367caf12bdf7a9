import DocLinks.Decimal.Shortest
import DocLinks.Text.Hidden

/-!
Faults of reading JSON text into records: the syntax faults of the text itself, and the data
faults of a well-formed value of the wrong shape. A fault may carry the point of the text where
it arose, as the number of bytes still unread there; its message then ends with the line and
the column of that point, counted in bytes from the start of the line.
-/

namespace DocLinks.Json

/-- The ways a JSON text can be malformed. -/
inductive SyntaxFault where
  | eofInList
  | eofInObject
  | eofInString
  | eofInValue
  | expectedColon
  | expectedListCommaOrEnd
  | expectedObjectCommaOrEnd
  | expectedIdent
  | expectedValue
  | invalidEscape
  | invalidNumber
  | numberOutOfRange
  | controlCharacterInString
  | keyMustBeString
  | loneLeadingSurrogate
  | trailingComma
  | trailingCharacters
  | unexpectedEndOfHexEscape
  | recursionLimitExceeded
  deriving DecidableEq, Repr

/-- The fixed wording of each syntax fault. -/
def SyntaxFault.text : SyntaxFault → String
  | .eofInList => "EOF while parsing a list"
  | .eofInObject => "EOF while parsing an object"
  | .eofInString => "EOF while parsing a string"
  | .eofInValue => "EOF while parsing a value"
  | .expectedColon => "expected `:`"
  | .expectedListCommaOrEnd => "expected `,` or `]`"
  | .expectedObjectCommaOrEnd => "expected `,` or `\x7d`"
  | .expectedIdent => "expected ident"
  | .expectedValue => "expected value"
  | .invalidEscape => "invalid escape"
  | .invalidNumber => "invalid number"
  | .numberOutOfRange => "number out of range"
  | .controlCharacterInString => "control character (\\u0000-\\u001F) found while parsing a string"
  | .keyMustBeString => "key must be a string"
  | .loneLeadingSurrogate => "lone leading surrogate in hex escape"
  | .trailingComma => "trailing comma"
  | .trailingCharacters => "trailing characters"
  | .unexpectedEndOfHexEscape => "unexpected end of hex escape"
  | .recursionLimitExceeded => "recursion limit exceeded"

/-- Lowercase hexadecimal digits of a number, without leading zeros. -/
def hexDigits (n : Nat) : String :=
  String.ofList (Nat.toDigits 16 n)

/-- One character inside a double-quoted text: quotes and backslashes get a backslash, the
usual control characters their short escapes, and hidden characters a `\u{..}` escape. -/
def quotedChar (c : Char) : String :=
  if c = '"' then "\\\""
  else if c = '\\' then "\\\\"
  else if c = '\n' then "\\n"
  else if c = '\r' then "\\r"
  else if c = '\t' then "\\t"
  else if c = '\x00' then "\\0"
  else if Text.isHidden c then "\\u\x7b" ++ hexDigits c.toNat ++ "\x7d"
  else String.singleton c

/-- A text in double quotes, escaped as `quotedChar` says. -/
def quoted (s : String) : String :=
  "\"" ++ String.join (s.toList.map quotedChar) ++ "\""

/-- What a reader found where it expected something else. -/
inductive Found where
  | bool (b : Bool)
  | unsigned (n : Nat)
  | signed (i : Int)
  | float (f : Float)
  | string (s : String)
  | null
  | sequence
  | map

/-- How a found value is named in a message. -/
def Found.text : Found → String
  | .bool b => "boolean `" ++ toString b ++ "`"
  | .unsigned n => "integer `" ++ toString n ++ "`"
  | .signed i => "integer `" ++ toString i ++ "`"
  | .float f => "floating point `" ++ Decimal.shortestText f ++ "`"
  | .string s => "string " ++ quoted s
  | .null => "null"
  | .sequence => "sequence"
  | .map => "map"

/-- A list of names as a message lists the allowed ones: one, two joined by `or`, or
`one of` a comma-separated list. -/
def oneOf (names : List String) : String :=
  let tick := fun (n : String) => "`" ++ n ++ "`"
  match names with
  | [a] => tick a
  | [a, b] => tick a ++ " or " ++ tick b
  | _ => "one of " ++ ", ".intercalate (names.map tick)

/-- The ways a well-formed value can fail to be the record that was asked for. -/
inductive DataFault where
  | invalidType (found : Found) (expected : String)
  | invalidValue (found : Found) (expected : String)
  | invalidLength (length : Nat) (expected : String)
  | unknownVariant (name : String) (variants : List String)
  | unknownField (name : String) (fields : List String)
  | missingField (name : String)
  | duplicateField (name : String)

/-- The wording of each data fault. -/
def DataFault.text : DataFault → String
  | .invalidType found expected => "invalid type: " ++ found.text ++ ", expected " ++ expected
  | .invalidValue found expected => "invalid value: " ++ found.text ++ ", expected " ++ expected
  | .invalidLength n expected => "invalid length " ++ toString n ++ ", expected " ++ expected
  | .unknownVariant name [] => "unknown variant `" ++ name ++ "`, there are no variants"
  | .unknownVariant name variants => "unknown variant `" ++ name ++ "`, expected " ++ oneOf variants
  | .unknownField name [] => "unknown field `" ++ name ++ "`, there are no fields"
  | .unknownField name fields => "unknown field `" ++ name ++ "`, expected " ++ oneOf fields
  | .missingField name => "missing field `" ++ name ++ "`"
  | .duplicateField name => "duplicate field `" ++ name ++ "`"

/-- A fault of either kind. -/
inductive Cause where
  | malformed (fault : SyntaxFault)
  | data (fault : DataFault)

/-- The wording of a cause. -/
def Cause.text : Cause → String
  | .malformed f => f.text
  | .data f => f.text

/-- A fault and, when known, the number of bytes of the text left unread where it arose. -/
structure Fault where
  cause : Cause
  left : Option Nat := none

/-- A data fault whose point is not yet known. -/
def Fault.ofData (f : DataFault) : Fault := { cause := .data f }

/-- The line (from one) and column (from zero, in bytes) of the point after `index` bytes of
`text`. -/
def lineColumn (text : List UInt8) (index : Nat) : Nat × Nat :=
  (text.take index).foldl (fun (line, column) (b : UInt8) => if b = 10 then (line + 1, 0) else (line, column + 1))
    (1, 0)

/-- The message of a fault in `text`: its wording, then its line and column when its point is
known. -/
def Fault.message (text : List UInt8) (f : Fault) : String :=
  match f.left with
  | none => f.cause.text
  | some left =>
    let (line, column) := lineColumn text (text.length - left)
    f.cause.text ++ " at line " ++ toString line ++ " column " ++ toString column

end DocLinks.Json
