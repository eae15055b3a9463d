import Reachability.Number.Binary64

/-!
# Shortest decimal text of binary64 values

A finite magnitude of `u` units (`u · 2^-1074`) is read back from any decimal inside its
rounding interval: the reals nearer to it than to its neighbours, the two ends included
when its significand is even (a tie there reads back as the even significand). The
shortest decimal is found by trying 1, 2, … significant digits: on each grid of that many
digits the two points around the value are tested, the first grid with a point inside the
interval wins, of two points the nearer one, and of two equally near the upper one.

`Binary64.plainText` writes such a value in positional notation, never with an exponent:
`1e300` is a one and three hundred zeros, `1e-7` is `0.0000001`. Zero is `0`, negative
zero `-0`, and the other values `inf`, `-inf` and `NaN`.
-/

namespace Reachability.Number

/-- `⌊log₁₀ (n / d)⌋` for positive `n` and `d`. -/
def floorLog10 (n d : Nat) : Int :=
  let k : Int := (Binary64.decimalLength n : Int) - (Binary64.decimalLength d : Int)
  let reaches : Bool :=
    if k ≥ 0 then d * Nat.pow 10 k.toNat ≤ n else d ≤ n * Nat.pow 10 (-k).toNat
  if reaches then k else k - 1

namespace Binary64

/-- The gap from a magnitude of `u` units to the next one up. -/
def gapAbove (u : Nat) : Nat := if u < Nat.pow 2 53 then 1 else Nat.pow 2 (Nat.log2 u - 52)

/-- The gap from a positive magnitude of `u` units to the next one down: half the gap
above at a power of two from `2^53` units on, else the same. -/
def gapBelow (u : Nat) : Nat :=
  if u ≥ Nat.pow 2 53 && u == Nat.pow 2 (Nat.log2 u) then gapAbove u / 2 else gapAbove u

/-- Is the significand of a magnitude of `u` units even? -/
def evenSignificand (u : Nat) : Bool := (u / gapAbove u) % 2 == 0

end Binary64

/-- Does `c · 10^e` lie in the rounding interval of `u` units? The interval's ends, in
halves of a unit, are `2u - gapBelow` and `2u + gapAbove`. -/
def insideRounding (u c : Nat) (e : Int) : Bool :=
  let lo := 2 * u - Binary64.gapBelow u
  let hi := 2 * u + Binary64.gapAbove u
  let closed := Binary64.evenSignificand u
  let scale := Nat.pow 2 (Binary64.unitExponent + 1)
  let (x, lo, hi) :=
    if e ≥ 0 then (c * Nat.pow 10 e.toNat * scale, lo, hi)
    else (c * scale, lo * Nat.pow 10 (-e).toNat, hi * Nat.pow 10 (-e).toNat)
  if closed then lo ≤ x && x ≤ hi else lo < x && x < hi

/-- Twice the distance from `c · 10^e` to `u` units, in a common scale, to compare two
points of one grid. -/
def gridDistance (u c : Nat) (e : Int) : Nat :=
  let scale := Nat.pow 2 Binary64.unitExponent
  if e ≥ 0 then
    let x := c * Nat.pow 10 e.toNat * scale
    if x ≥ u then x - u else u - x
  else
    let x := c * scale
    let v := u * Nat.pow 10 (-e).toNat
    if x ≥ v then x - v else v - x

/-- Drops trailing zeros of a digit string, raising the power of ten to match. -/
def trimZeros : Nat → Nat → Int → Nat × Int
  | 0, c, e => (c, e)
  | fuel + 1, c, e => if c ≠ 0 && c % 10 == 0 then trimZeros fuel (c / 10) (e + 1) else (c, e)

/-- The grid point of `k` significant digits nearest to a positive magnitude of `u` units
inside its rounding interval, if any. -/
def gridHit (u : Nat) (k : Nat) : Option (Nat × Int) :=
  let d := floorLog10 u (Nat.pow 2 Binary64.unitExponent)
  let e : Int := d - (k - 1 : Nat)
  let below := if e ≥ 0 then u / (Nat.pow 2 Binary64.unitExponent * Nat.pow 10 e.toNat)
    else u * Nat.pow 10 (-e).toNat / Nat.pow 2 Binary64.unitExponent
  let above := below + 1
  match insideRounding u below e, insideRounding u above e with
  | true, true =>
    let db := gridDistance u below e
    let da := gridDistance u above e
    if db < da then some (below, e) else some (above, e)
  | true, false => some (below, e)
  | false, true => some (above, e)
  | false, false => none

/-- The shortest decimal of a positive magnitude of `u` units: its digits without trailing
zeros and the power of ten that scales them. -/
def shortestDecimal (u : Nat) : Nat × Int :=
  let found := (List.range 17).findSome? fun i => gridHit u (i + 1)
  match found with
  | some (c, e) => trimZeros 20 c e
  | none => trimZeros 20 u (-(Binary64.unitExponent : Int))

/-- Digits `ds` scaled by `10^e` in positional notation. -/
def positional (ds : String) (e : Int) : String :=
  let point : Int := ds.length + e
  if point ≤ 0 then "0." ++ String.ofList (List.replicate (-point).toNat '0') ++ ds
  else if point < ds.length then
    String.ofList (ds.toList.take point.toNat) ++ "." ++ String.ofList (ds.toList.drop point.toNat)
  else ds ++ String.ofList (List.replicate (point.toNat - ds.length) '0')

/-- The positional text of a binary64 value with the fewest digits that read back. -/
def Binary64.plainText : Binary64 → String
  | .finite neg u =>
    let sign := if neg then "-" else ""
    if u = 0 then sign ++ "0"
    else
      let (c, e) := shortestDecimal u
      sign ++ positional (toString c) e
  | .infinite neg => if neg then "-inf" else "inf"
  | .nan => "NaN"

end Reachability.Number
