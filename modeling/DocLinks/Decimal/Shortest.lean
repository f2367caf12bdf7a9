/-!
Binary64 values and their decimal text. A value is read from a decimal by the nearest binary64
to an integer, scaled by a power of ten; it is written back with the fewest significant digits
that read back to it, and of those the nearest. The text is positional when the decimal point
falls within sixteen digits of the first digit and at most four zeros behind the point, and
scientific with a signed exponent otherwise.
-/

namespace DocLinks.Decimal

/-- The nearest binary64 to a natural number, ties to the even mantissa; numbers at or above
`2 ^ 1024` after rounding are infinite. -/
def nearest (n : Nat) : Float :=
  if n = 0 then 0.0 else
  let width := Nat.log2 n + 1
  if width ≤ 53 then
    -- exact: the mantissa is `n` shifted up to 53 bits
    let mant := n <<< (53 - width)
    Float.ofBits (UInt64.ofNat (((width - 1 + 1023) <<< 52) ||| (mant - Nat.pow 2 52)))
  else
    let shift := width - 53
    let q := n >>> shift
    let r := n % Nat.pow 2 shift
    let half := Nat.pow 2 (shift - 1)
    let up := r > half ∨ (r = half ∧ q % 2 = 1)
    let q' := if up then q + 1 else q
    -- rounding up may carry into a 54th bit
    let (mant, shift') := if q' = Nat.pow 2 53 then (Nat.pow 2 52, shift + 1) else (q', shift)
    let biased := shift' + 52 + 1023
    if biased ≥ 2047 then Float.ofBits 0x7FF0000000000000
    else Float.ofBits (UInt64.ofNat ((biased <<< 52) ||| (mant - Nat.pow 2 52)))

/-- The nearest binary64 to `10 ^ k`, for the scale factors of decimal reading. -/
def powerOfTen (k : Nat) : Float := nearest (Nat.pow 10 k)

/-- A finite nonzero binary64 magnitude as `mantissa * 2 ^ exponent`, together with the bounds
of the interval of reals that round to it, in units of `2 ^ (exponent - 2)`. -/
structure Binary where
  mantissa : Nat
  exponent : Int
  lower : Nat
  upper : Nat
  /-- Whether the bounds themselves round to the value: they do when the mantissa is even. -/
  closed : Bool

/-- The binary form of a nonzero finite magnitude given by its exponent and fraction fields. -/
def Binary.ofFields (biased frac : Nat) : Binary :=
  let (m, e) := if biased = 0 then (frac, (-1074 : Int)) else (frac + Nat.pow 2 52, (biased : Int) - 1075)
  -- the gap below a power of two is half the gap above it
  let narrowBelow := frac = 0 ∧ biased > 1
  { mantissa := m, exponent := e,
    lower := 4 * m - (if narrowBelow then 1 else 2), upper := 4 * m + 2,
    closed := m % 2 = 0 }

/-- Integer division rounded up. -/
def ceilDiv (a b : Nat) : Nat := (a + b - 1) / b

/-- The digits `d` with `d * 10 ^ k` inside the rounding interval of `b`, as a range, and the
one nearest to the value itself (ties to even), kept inside the range. -/
def Binary.grid (b : Binary) (k : Int) : Nat × Nat × Nat :=
  let e2 := b.exponent - 2
  let up2 := e2.toNat
  let down2 := (-e2).toNat
  let up10 := k.toNat
  let down10 := (-k).toNat
  let den := Nat.pow 10 up10 * Nat.pow 2 down2
  let scale := fun (x : Nat) => x * Nat.pow 2 up2 * Nat.pow 10 down10
  let lo := if b.closed then ceilDiv (scale b.lower) den else scale b.lower / den + 1
  let hi := if b.closed then scale b.upper / den else ceilDiv (scale b.upper) den - 1
  let v := scale (4 * b.mantissa)
  let q := v / den
  let r := v % den
  let near := if 2 * r < den then q else if 2 * r > den then q + 1 else if q % 2 = 0 then q else q + 1
  (lo, hi, max lo (min hi near))

/-- Searches the decimal grids from `10 ^ k` downwards, at most `fuel` of them, for the first
that has a point inside the rounding interval; answers that point's digits and grid. -/
def Binary.search (b : Binary) : Nat → Int → Nat × Int
  | 0, k => (0, k)
  | fuel + 1, k =>
    let (lo, hi, d) := b.grid k
    if lo ≤ hi then (d, k) else b.search fuel (k - 1)

/-- A grid above every point of the interval: `2 ^ (width + e2)` bounds it, and
`log10 2 < 0.30103`. -/
def Binary.topGrid (b : Binary) : Int :=
  ((Nat.log2 b.upper + 1 : Nat) + (b.exponent - 2)) * 30103 / 100000 + 1

/-- Drops trailing zero digits, moving them into the grid exponent. -/
def trimZeros : Nat → Nat → Int → Nat × Int
  | 0, d, k => (d, k)
  | fuel + 1, d, k => if d ≠ 0 ∧ d % 10 = 0 then trimZeros fuel (d / 10) (k + 1) else (d, k)

/-- The shortest digits of a nonzero magnitude and their exponent: the value is close to
`digits * 10 ^ exponent`. -/
def Binary.shortest (b : Binary) : Nat × Int :=
  let (d, k) := b.search 48 b.topGrid
  trimZeros 24 d k

/-- The decimal digits of a natural number, most significant first. -/
def digitsOf (n : Nat) : List Char :=
  (Nat.toDigits 10 n)

/-- Writes `digits * 10 ^ k` in the positional or scientific form. -/
def layout (digits : List Char) (k : Int) : String :=
  let n : Int := digits.length
  let kk := n + k
  if 0 ≤ k ∧ kk ≤ 16 then
    String.ofList (digits ++ List.replicate k.toNat '0' ++ ['.', '0'])
  else if 0 < kk ∧ kk ≤ 16 then
    String.ofList (digits.take kk.toNat ++ ['.'] ++ digits.drop kk.toNat)
  else if -5 < kk ∧ kk ≤ 0 then
    String.ofList (['0', '.'] ++ List.replicate (-kk).toNat '0' ++ digits)
  else
    let e := kk - 1
    let expText := (if e < 0 then "-" else "+") ++ toString e.natAbs
    match digits with
    | [d] => String.singleton d ++ "e" ++ expText
    | d :: rest => String.singleton d ++ "." ++ String.ofList rest ++ "e" ++ expText
    | [] => "0e" ++ expText

/-- The shortest text of a finite binary64 value: `0.0` and `-0.0` for the zeros, a sign for
negative values. Non-finite values, which no reader here produces, are written `inf`, `-inf`
and `NaN`. -/
def shortestText (f : Float) : String :=
  let bits := f.toBits
  let negative := bits >>> 63 = 1
  let sign := if negative then "-" else ""
  let biased := ((bits >>> 52) &&& 0x7FF).toNat
  let frac := (bits &&& 0xFFFFFFFFFFFFF).toNat
  if biased = 2047 then
    if frac = 0 then sign ++ "inf" else "NaN"
  else if biased = 0 ∧ frac = 0 then sign ++ "0.0"
  else
    let (d, k) := (Binary.ofFields biased frac).shortest
    sign ++ layout (digitsOf d) k

end DocLinks.Decimal
