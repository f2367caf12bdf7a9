/-!
Jaro similarity of two texts, over their characters, computed in binary64 as
`(m / |a| + m / |b| + (m - t) / m) / 3`, where `m` counts the characters that match within the
search window (half the longer length, less one) and `t` is half the number of matched
characters out of order. Two empty texts are fully similar; an empty and a non-empty one not at
all. Candidates more similar than `0.7` count as suggestions, the most similar last.
-/

namespace DocLinks.Text

/-- Marks the first unmarked character of `b` within `[lo, hi)` equal to `c`, if any. -/
def markFirst (c : Char) (lo hi : Nat) : List (Char × Bool) → Nat → Option (List (Char × Bool))
  | [], _ => none
  | (d, used) :: rest, j =>
    if lo ≤ j ∧ j < hi ∧ d = c ∧ !used then some ((d, true) :: rest)
    else ((markFirst c lo hi rest (j + 1)).map fun r => (d, used) :: r)

/-- Matches each character of `a`, in order, with the first free equal character of `b` in its
window; answers the matched characters of `a` in order, and `b` with its matched ones marked. -/
def matchWindow (window : Nat) : List Char → Nat → List (Char × Bool) → List Char × List (Char × Bool)
  | [], _, bs => ([], bs)
  | c :: cs, i, bs =>
    let lo := i - window
    let hi := min bs.length (i + window + 1)
    match markFirst c lo hi bs 0 with
    | some bs' =>
      let (ms, bs'') := matchWindow window cs (i + 1) bs'
      (c :: ms, bs'')
    | none => matchWindow window cs (i + 1) bs

/-- The number of positions where two lists of characters differ. -/
def mismatches : List Char → List Char → Nat
  | a :: as, b :: bs => (if a = b then 0 else 1) + mismatches as bs
  | _, _ => 0

/-- The Jaro similarity of two texts. -/
def jaro (a b : String) : Float :=
  let as := a.toList
  let bs := b.toList
  if as.isEmpty ∧ bs.isEmpty then 1.0
  else if as.isEmpty ∨ bs.isEmpty then 0.0
  else
    let window := max as.length bs.length / 2 - 1
    let (ma, marked) := matchWindow window as 0 (bs.map fun c => (c, false))
    let mb := (marked.filter (·.2)).map (·.1)
    let m := ma.length
    if m = 0 then 0.0
    else
      let t := mismatches ma mb / 2
      let mf := Float.ofNat m
      (mf / Float.ofNat as.length + mf / Float.ofNat bs.length + Float.ofNat (m - t) / mf) / 3.0

/-- The candidates more similar to `v` than `0.7`, least similar first; equally similar ones
keep their order. -/
def suggestions (v : String) (candidates : List String) : List String :=
  let scored := (candidates.map fun c => (jaro v c, c)).filter fun (s, _) => s > 0.7
  (scored.mergeSort fun x y => x.1 ≤ y.1).map (·.2)

end DocLinks.Text
