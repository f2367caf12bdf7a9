import DocLinks.Json.Fault

/-!
Scanners for the tokens of JSON text: string bodies, numbers, and the same two kinds of token
skipped without building their value. A scanner takes the bytes after the token's start and
answers the token and the bytes after it, or a syntax fault and the number of bytes left where
the fault arose.

Numbers keep their kind: a non-negative integer below `2 ^ 64`, a negative integer down to
`-2 ^ 63`, and otherwise a binary64 value. A fraction or an exponent always gives a binary64,
and so does `-0`.
-/

namespace DocLinks.Json

/-- The outcome of a scanner. -/
abbrev Scan (α : Type) := Except (SyntaxFault × Nat) (α × List UInt8)

/-- Whether a byte is an ASCII digit. -/
def isDigit (b : UInt8) : Bool := 48 ≤ b && b ≤ 57

/-- The value of an ASCII digit. -/
def digitValue (b : UInt8) : Nat := b.toNat - 48

/-- The value of a hexadecimal digit of either case. -/
def hexValue (b : UInt8) : Option Nat :=
  let n := b.toNat
  if 48 ≤ n ∧ n ≤ 57 then some (n - 48)
  else if 97 ≤ n ∧ n ≤ 102 then some (n - 87)
  else if 65 ≤ n ∧ n ≤ 70 then some (n - 55)
  else none

/-- Four hexadecimal digits after `\u`; fewer than four bytes left is the end of the text. -/
def hexEscape (bs : List UInt8) : Scan Nat :=
  match bs with
  | a :: b :: c :: d :: r =>
    match hexValue a, hexValue b, hexValue c, hexValue d with
    | some w, some x, some y, some z => .ok (((w * 16 + x) * 16 + y) * 16 + z, r)
    | _, _, _, _ => .error (.invalidEscape, r.length)
  | _ => .error (.eofInString, 0)

/-- A `\u` escape inside a string: a character of the basic plane, or a leading surrogate
followed at once by a `\u` escape of a trailing surrogate. -/
def unicodeEscape (bs : List UInt8) : Scan Char :=
  match hexEscape bs with
  | .error e => .error e
  | .ok (n, r) =>
    if 0xDC00 ≤ n ∧ n ≤ 0xDFFF then .error (.loneLeadingSurrogate, r.length)
    else if n < 0xD800 ∨ n > 0xDBFF then .ok (Char.ofNat n, r)
    else
      match r with
      | [] => .error (.eofInString, 0)
      | b :: r1 =>
        if b ≠ 92 then .error (.unexpectedEndOfHexEscape, r1.length)
        else
          match r1 with
          | [] => .error (.eofInString, 0)
          | u :: r2 =>
            if u ≠ 117 then .error (.unexpectedEndOfHexEscape, r2.length)
            else
              match hexEscape r2 with
              | .error e => .error e
              | .ok (n2, r3) =>
                if n2 < 0xDC00 ∨ n2 > 0xDFFF then .error (.loneLeadingSurrogate, r3.length)
                else .ok (Char.ofNat ((((n - 0xD800) <<< 10) ||| (n2 - 0xDC00)) + 0x10000), r3)

/-- The character an escape stands for, from the byte after the backslash. -/
def escape (bs : List UInt8) : Scan Char :=
  match bs with
  | [] => .error (.eofInString, 0)
  | b :: r =>
    match b.toNat with
    | 34 => .ok ('"', r)
    | 92 => .ok ('\\', r)
    | 47 => .ok ('/', r)
    | 98 => .ok ('\x08', r)
    | 102 => .ok ('\x0c', r)
    | 110 => .ok ('\n', r)
    | 114 => .ok ('\r', r)
    | 116 => .ok ('\t', r)
    | 117 => unicodeEscape r
    | _ => .error (.invalidEscape, r.length)

/-- The continuation bits of the next `n` bytes of a UTF-8 sequence. -/
def continuation : Nat → Nat → List UInt8 → Nat × List UInt8
  | 0, acc, bs => (acc, bs)
  | n + 1, acc, b :: bs => continuation n (acc * 64 + (b.toNat % 64)) bs
  | _ + 1, acc, [] => (acc, [])

/-- The character whose UTF-8 sequence starts with byte `b` and goes on in `bs`. -/
def utf8Char (b : UInt8) (bs : List UInt8) : Char × List UInt8 :=
  let n := b.toNat
  if n < 0x80 then (Char.ofNat n, bs)
  else if n < 0xE0 then
    let (v, r) := continuation 1 (n % 32) bs
    (Char.ofNat v, r)
  else if n < 0xF0 then
    let (v, r) := continuation 2 (n % 16) bs
    (Char.ofNat v, r)
  else
    let (v, r) := continuation 3 (n % 8) bs
    (Char.ofNat v, r)

/-- The body of a string up to and with its closing quote, with its escapes decoded. A control
character is refused once read; `fuel` bounds the characters read. -/
def stringBody : Nat → List UInt8 → List Char → Scan String
  | 0, bs, _ => .error (.eofInString, bs.length)
  | _ + 1, [], _ => .error (.eofInString, 0)
  | fuel + 1, b :: r, acc =>
    if b = 34 then .ok (String.ofList acc.reverse, r)
    else if b = 92 then
      match escape r with
      | .ok (c, r') => stringBody fuel r' (c :: acc)
      | .error e => .error e
    else if b < 0x20 then .error (.controlCharacterInString, r.length)
    else
      let (c, r') := utf8Char b r
      stringBody fuel r' (c :: acc)

/-- Reads a string body after its opening quote. -/
def scanString (bs : List UInt8) : Scan String :=
  stringBody (bs.length + 1) bs []

/-- Skips an escape after its backslash, checking only its form. -/
def skipEscape (bs : List UInt8) : Except (SyntaxFault × Nat) (List UInt8) :=
  match bs with
  | [] => .error (.eofInString, 0)
  | b :: r =>
    match b.toNat with
    | 34 | 92 | 47 | 98 | 102 | 110 | 114 | 116 => .ok r
    | 117 => (hexEscape r).map Prod.snd
    | _ => .error (.invalidEscape, r.length)

/-- Skips a string body after its opening quote. A control character is refused where it
stands, and surrogate escapes are not paired. -/
def skipStringBody : Nat → List UInt8 → Except (SyntaxFault × Nat) (List UInt8)
  | 0, bs => .error (.eofInString, bs.length)
  | _ + 1, [] => .error (.eofInString, 0)
  | fuel + 1, b :: r =>
    if b = 34 then .ok r
    else if b = 92 then
      match skipEscape r with
      | .ok r' => skipStringBody fuel r'
      | .error e => .error e
    else if b < 0x20 then .error (.controlCharacterInString, r.length + 1)
    else skipStringBody fuel r

/-- Skips a string after its opening quote. -/
def skipString (bs : List UInt8) : Except (SyntaxFault × Nat) (List UInt8) :=
  skipStringBody (bs.length + 1) bs

/-- A number of JSON text, by the kind it is read as. -/
inductive Number where
  /-- A non-negative integer below `2 ^ 64`. -/
  | unsigned (n : Nat)
  /-- A negative integer down to `-2 ^ 63`. -/
  | signed (i : Int)
  /-- Any other number, as the nearest binary64 the scaling reaches. -/
  | float (f : Float)

/-- How a number is named when it is not what was expected. -/
def Number.found : Number → Found
  | .unsigned n => .unsigned n
  | .signed i => .signed i
  | .float f => .float f

/-- The largest integer kept exactly while digits are read, `2 ^ 64 - 1`. -/
def wordMax : Nat := 18446744073709551615

/-- The bounds of a decimal exponent once read, `2 ^ 31 - 1`. -/
def exponentMax : Int := 2147483647

/-- Scales a binary64 by a power of ten, `10 ^ 308` at a time below `10 ^ -308`; a result too
large to hold is `none`. -/
def scaleLoop : Nat → Float → Int → Option Float
  | 0, f, _ => some f
  | fuel + 1, f, e =>
    if e.natAbs ≤ 308 then
      if e ≥ 0 then
        let g := f * Decimal.powerOfTen e.natAbs
        if g.isInf then none else some g
      else some (f / Decimal.powerOfTen e.natAbs)
    else if f == 0.0 then some f
    else if e ≥ 0 then none
    else scaleLoop fuel (f / Decimal.powerOfTen 308) (e + 308)

/-- The binary64 of `significand * 10 ^ exponent` with a sign; `rest` is where reading stands,
for the fault of a value out of range. -/
def scaled (positive : Bool) (significand : Nat) (exponent : Int) (rest : List UInt8) :
    Scan Number :=
  match scaleLoop 8 (Decimal.nearest significand) exponent with
  | some f => .ok (.float (if positive then f else -f), rest)
  | none => .error (.numberOutOfRange, rest.length)

/-- Skips the digits at the start of `bs`. -/
def dropDigits (bs : List UInt8) : List UInt8 := bs.dropWhile isDigit

/-- Reads exponent digits; one that makes the exponent too large ends the number as zero
when the significand is zero or the exponent negative, and as out of range otherwise. -/
def exponentDigits (positive : Bool) (significand : Nat) (start : Int) (up : Bool) :
    Nat → Nat → List UInt8 → Scan Number
  | 0, _, bs => .error (.invalidNumber, bs.length)
  | fuel + 1, e, bs =>
    match bs with
    | c :: r =>
      if isDigit c then
        let e' := e * 10 + digitValue c
        if e' > exponentMax.toNat then
          if significand ≠ 0 ∧ up then .error (.numberOutOfRange, r.length)
          else .ok (.float (if positive then 0.0 else -0.0), dropDigits r)
        else exponentDigits positive significand start up fuel e' r
      else
        let final := if up then min (start + e) exponentMax else max (start - e) (-exponentMax - 1)
        scaled positive significand final bs
    | [] =>
      let final := if up then min (start + e) exponentMax else max (start - e) (-exponentMax - 1)
      scaled positive significand final bs

/-- Reads an exponent from its `e` on. -/
def exponentPart (positive : Bool) (significand : Nat) (start : Int) (bs : List UInt8) :
    Scan Number :=
  let r := bs.drop 1
  let (up, r) := match r with
    | b :: r' => if b = 43 then (true, r') else if b = 45 then (false, r') else (true, r)
    | [] => (true, r)
  match r with
  | [] => .error (.eofInValue, 0)
  | c :: r' =>
    if isDigit c then exponentDigits positive significand start up (r'.length + 1) (digitValue c) r'
    else .error (.invalidNumber, r'.length)

/-- Whether a byte starts an exponent. -/
def isExponentMark (b : UInt8) : Bool := b = 101 || b = 69

/-- After digits that no longer fit a word: they are dropped, and the rest of the number
scales what was kept. -/
def afterDroppedDigits (positive : Bool) (significand : Nat) (exponent : Int)
    (bs : List UInt8) : Scan Number :=
  match dropDigits bs with
  | b :: r => if isExponentMark b then exponentPart positive significand exponent (b :: r)
    else scaled positive significand exponent (b :: r)
  | [] => scaled positive significand exponent []

/-- Reads the fraction digits after a decimal point. -/
def fractionDigits (positive : Bool) (before : Int) :
    Nat → Nat → Int → List UInt8 → Scan Number
  | 0, _, _, bs => .error (.invalidNumber, bs.length)
  | fuel + 1, significand, after, bs =>
    match bs with
    | c :: r =>
      if isDigit c then
        let s := significand * 10 + digitValue c
        if s > wordMax then afterDroppedDigits positive significand (before + after) bs
        else fractionDigits positive before fuel s (after - 1) r
      else if after = 0 then .error (.invalidNumber, bs.length - 1)
      else if isExponentMark c then exponentPart positive significand (before + after) bs
      else scaled positive significand (before + after) bs
    | [] =>
      if after = 0 then .error (.eofInValue, 0)
      else scaled positive significand (before + after) []

/-- Reads a fraction from its decimal point on. -/
def fractionPart (positive : Bool) (significand : Nat) (before : Int) (bs : List UInt8) :
    Scan Number :=
  let r := bs.drop 1
  fractionDigits positive before (r.length + 1) significand 0 r

/-- What follows the integer digits: a fraction, an exponent, or the end of the number. -/
def numberTail (positive : Bool) (significand : Nat) (bs : List UInt8) : Scan Number :=
  match bs with
  | b :: _ =>
    if b = 46 then fractionPart positive significand 0 bs
    else if isExponentMark b then exponentPart positive significand 0 bs
    else .ok (integerNumber positive significand, bs)
  | [] => .ok (integerNumber positive significand, bs)
where
  /-- An integer with its sign: `-0` and integers below `-2 ^ 63` are binary64. -/
  integerNumber (positive : Bool) (significand : Nat) : Number :=
    if positive then .unsigned significand
    else if significand = 0 then .float (-0.0)
    else if significand ≤ Nat.pow 2 63 then .signed (-(significand : Int))
    else .float (-(Decimal.nearest significand))

/-- Integer digits that no longer fit a word: each further digit scales by ten. -/
def longDigits (positive : Bool) (significand : Nat) : Nat → Int → List UInt8 → Scan Number
  | 0, _, bs => .error (.invalidNumber, bs.length)
  | fuel + 1, exponent, bs =>
    match bs with
    | c :: r =>
      if isDigit c then longDigits positive significand fuel (exponent + 1) r
      else if c = 46 then fractionPart positive significand exponent bs
      else if isExponentMark c then exponentPart positive significand exponent bs
      else scaled positive significand exponent bs
    | [] => scaled positive significand exponent []

/-- Reads integer digits while they fit a word. -/
def integerDigits (positive : Bool) : Nat → Nat → List UInt8 → Scan Number
  | 0, _, bs => .error (.invalidNumber, bs.length)
  | fuel + 1, significand, bs =>
    match bs with
    | c :: r =>
      if isDigit c then
        let s := significand * 10 + digitValue c
        if s > wordMax then longDigits positive significand (bs.length + 1) 0 bs
        else integerDigits positive fuel s r
      else numberTail positive significand bs
    | [] => numberTail positive significand []

/-- Reads a number after its sign, if any: one leading zero at most, then digits, a fraction
and an exponent. -/
def scanNumber (positive : Bool) (bs : List UInt8) : Scan Number :=
  match bs with
  | [] => .error (.eofInValue, 0)
  | b :: r =>
    if b = 48 then
      match r with
      | c :: _ => if isDigit c then .error (.invalidNumber, r.length - 1) else numberTail positive 0 r
      | [] => numberTail positive 0 r
    else if isDigit b then integerDigits positive (r.length + 1) (digitValue b) r
    else .error (.invalidNumber, r.length)

/-- Skips an exponent from its `e` on. -/
def skipExponent (bs : List UInt8) : Except (SyntaxFault × Nat) (List UInt8) :=
  let r := bs.drop 1
  let r := match r with
    | b :: r' => if b = 43 ∨ b = 45 then r' else r
    | [] => r
  match r with
  | c :: r' => if isDigit c then .ok (dropDigits r') else .error (.invalidNumber, r'.length)
  | [] => .error (.invalidNumber, 0)

/-- Skips what follows the integer digits of a number. -/
def skipNumberTail (bs : List UInt8) : Except (SyntaxFault × Nat) (List UInt8) :=
  match bs with
  | b :: r =>
    if b = 46 then
      match r with
      | c :: _ =>
        if isDigit c then
          match dropDigits r with
          | e :: r' => if isExponentMark e then skipExponent (e :: r') else .ok (e :: r')
          | [] => .ok []
        else .error (.invalidNumber, r.length - 1)
      | [] => .error (.invalidNumber, 0)
    else if isExponentMark b then skipExponent bs
    else .ok bs
  | [] => .ok []

/-- Skips a number after its sign, if any, checking its form. -/
def skipNumber (bs : List UInt8) : Except (SyntaxFault × Nat) (List UInt8) :=
  match bs with
  | [] => .error (.invalidNumber, 0)
  | b :: r =>
    if b = 48 then
      match r with
      | c :: _ => if isDigit c then .error (.invalidNumber, r.length - 1) else skipNumberTail r
      | [] => .ok []
    else if isDigit b then skipNumberTail (dropDigits r)
    else .error (.invalidNumber, r.length)

end DocLinks.Json
