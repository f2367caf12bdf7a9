import DocLinks.Json.Value

/-!
The two texts of a JSON value: the compact one, with no blanks, and the pretty one, with each
array element and object entry on a line of its own, indented by two spaces a level, `": "`
after each key, and empty arrays and objects written `[]` and `{}`.

In a string, the quote and the backslash get a backslash, the control characters with a short
escape get it, the other control characters a `\u00XX` escape with lowercase digits, and every
other character stands as it is.
-/

namespace DocLinks.Json

/-- The two-digit lowercase hexadecimal form of a byte. -/
def hexByte (n : Nat) : String :=
  let digit := fun (d : Nat) => if d < 10 then Char.ofNat (48 + d) else Char.ofNat (87 + d)
  String.ofList [digit (n / 16 % 16), digit (n % 16)]

/-- One character of a string as written inside its quotes. -/
def escapeChar (c : Char) : String :=
  if c = '"' then "\\\""
  else if c = '\\' then "\\\\"
  else if c = '\n' then "\\n"
  else if c = '\r' then "\\r"
  else if c = '\t' then "\\t"
  else if c = '\x08' then "\\b"
  else if c = '\x0c' then "\\f"
  else if c.toNat < 0x20 then "\\u00" ++ hexByte c.toNat
  else String.singleton c

/-- A string as written, quotes included. -/
def quote (s : String) : String :=
  s.foldl (fun acc c => acc ++ escapeChar c) "\"" ++ "\""

mutual
/-- The compact text of a value. -/
def compact : Json → String
  | .null => "null"
  | .bool b => toString b
  | .int i => toString i
  | .str s => quote s
  | .arr items => "[" ++ compactItems items ++ "]"
  | .obj fields => "\x7b" ++ compactFields fields ++ "\x7d"

/-- The compact texts of array elements, comma-separated. -/
def compactItems : List Json → String
  | [] => ""
  | [v] => compact v
  | v :: vs => compact v ++ "," ++ compactItems vs

/-- The compact texts of object entries, comma-separated. -/
def compactFields : List (String × Json) → String
  | [] => ""
  | [(k, v)] => quote k ++ ":" ++ compact v
  | (k, v) :: rest => quote k ++ ":" ++ compact v ++ "," ++ compactFields rest
end

/-- The blanks before a line at nesting level `n`. -/
def indent (n : Nat) : String := String.ofList (List.replicate (2 * n) ' ')

mutual
/-- The pretty text of a value at nesting level `n`. -/
def prettyAt (n : Nat) : Json → String
  | .arr [] => "[]"
  | .arr items => "[\n" ++ prettyItems (n + 1) items ++ "\n" ++ indent n ++ "]"
  | .obj [] => "\x7b\x7d"
  | .obj fields => "\x7b\n" ++ prettyFields (n + 1) fields ++ "\n" ++ indent n ++ "\x7d"
  | v => compact v

/-- Array elements, one per line at level `n`. -/
def prettyItems (n : Nat) : List Json → String
  | [] => ""
  | [v] => indent n ++ prettyAt n v
  | v :: vs => indent n ++ prettyAt n v ++ ",\n" ++ prettyItems n vs

/-- Object entries, one per line at level `n`. -/
def prettyFields (n : Nat) : List (String × Json) → String
  | [] => ""
  | [(k, v)] => indent n ++ quote k ++ ": " ++ prettyAt n v
  | (k, v) :: rest => indent n ++ quote k ++ ": " ++ prettyAt n v ++ ",\n" ++ prettyFields n rest
end

/-- The pretty text of a value. -/
def pretty (v : Json) : String := prettyAt 0 v

end DocLinks.Json
