/-!
# Binary64 numbers

A binary64 value is kept as a sign and a magnitude counted in units of the smallest
subnormal, `2^-1074`; every finite binary64 magnitude is such a whole number of units. The
finite magnitudes are the numbers of units below `2^53`, and `m · 2^s` units with
`2^52 ≤ m < 2^53` and `s ≤ 1993`.

Every operation here is exact rational arithmetic followed by one rounding to the nearest
finite magnitude, ties to the even significand (`roundUnits`); a result beyond the largest
finite magnitude is an infinity.

Reading a decimal number follows the usual floating-point literal grammar: an optional
sign, then digits with an optional point and an optional exponent (`e` or `E`, optional
sign, at least one digit), with at least one digit before or after the point; or one of
`inf`, `infinity`, `nan` in any case.
-/

namespace Reachability.Number

/-- A binary64 value: a signed finite magnitude in units of `2^-1074`, a signed infinity,
or not a number. -/
inductive Binary64 where
  | finite (negative : Bool) (units : Nat)
  | infinite (negative : Bool)
  | nan
deriving DecidableEq, Repr

namespace Binary64

/-- Bits of the significand, the leading one included. -/
def precision : Nat := 53

/-- The exponent of the unit: a unit is `2^-1074`. -/
def unitExponent : Nat := 1074

/-- The largest finite magnitude, `(2^53 - 1) · 2^971`, in units. -/
def maxUnits : Nat := (Nat.pow 2 53 - 1) * Nat.pow 2 2045

/-- The quotient `n / d` rounded to the nearest integer, a tie to the even one. -/
def roundHalfEven (n d : Nat) : Nat :=
  let q := n / d
  let r := n % d
  if 2 * r < d then q else if 2 * r > d then q + 1 else q + q % 2

/-- The quotient `n / d` rounded to the nearest integer, a tie away from zero. -/
def roundHalfUp (n d : Nat) : Nat :=
  let q := n / d
  if 2 * (n % d) ≥ d then q + 1 else q

/-- `⌊log₂ (n / d)⌋` for positive `n` and `d`. -/
def floorLog2 (n d : Nat) : Int :=
  let k : Int := (Nat.log2 n : Int) - (Nat.log2 d : Int)
  let reaches : Bool :=
    if k ≥ 0 then d * Nat.pow 2 k.toNat ≤ n else d ≤ n * Nat.pow 2 (-k).toNat
  if reaches then k else k - 1

/-- The magnitude `n / d` units rounded to binary64, ties to even; `none` when it rounds
beyond the largest finite magnitude. -/
def roundUnits (n d : Nat) : Option Nat :=
  if n = 0 then some 0
  else
    let k := floorLog2 n d
    let s : Nat := (k - (precision - 1 : Nat)).toNat
    let r := roundHalfEven n (d * Nat.pow 2 s) * Nat.pow 2 s
    if r > maxUnits then none else some r

/-- The binary64 value nearest to `(-1)^negative · n / d` units. -/
def ofRatio (negative : Bool) (n d : Nat) : Binary64 :=
  match roundUnits n d with
  | some u => finite negative u
  | none => infinite negative

/-- The number of decimal digits of a positive number. -/
def decimalLength (n : Nat) : Nat := (toString n).length

/-- The binary64 value nearest to `(-1)^negative · digits · 10^exponent`. Values far
outside the finite range are settled by their decimal length alone. -/
def ofDecimal (negative : Bool) (digits : Nat) (exponent : Int) : Binary64 :=
  if digits = 0 then finite negative 0
  else
    let magnitude := (decimalLength digits : Int) + exponent
    if magnitude > 310 then infinite negative
    else if magnitude < -330 then finite negative 0
    else if exponent ≥ 0 then ofRatio negative (digits * Nat.pow 10 exponent.toNat * Nat.pow 2 unitExponent) 1
    else ofRatio negative (digits * Nat.pow 2 unitExponent) (Nat.pow 10 (-exponent).toNat)

/-- Is the value finite? -/
def isFinite : Binary64 → Bool
  | finite _ _ => true
  | _ => false

/-- Is the value below zero? Negative zero is not. -/
def isNegative : Binary64 → Bool
  | finite neg u => neg && u != 0
  | infinite neg => neg
  | nan => false

/-- The product with a natural number, rounded. -/
def mulNat (x : Binary64) (k : Nat) : Binary64 :=
  match x with
  | finite neg u => ofRatio neg (u * k) 1
  | infinite neg => if k = 0 then nan else infinite neg
  | nan => nan

/-- The binary64 value nearest to a natural number. -/
def ofNat (n : Nat) : Binary64 := ofRatio false (n * Nat.pow 2 unitExponent) 1

/-- The rounded sum of two non-negative finite values; other values give not-a-number. -/
def addNonneg (x y : Binary64) : Binary64 :=
  match x, y with
  | finite false a, finite false b => ofRatio false (a + b) 1
  | _, _ => nan

/-- The rounded quotient of two non-negative finite values, the divisor positive; other
values give not-a-number. -/
def divNonneg (x y : Binary64) : Binary64 :=
  match x, y with
  | finite false a, finite false b => if b = 0 then nan else ofRatio false (a * Nat.pow 2 unitExponent) b
  | _, _ => nan

/-- The nearest integer, a tie away from zero, as a count saturated to `0..limit`: negative
values and not-a-number give 0, values beyond `limit` give `limit`. -/
def roundToCount (x : Binary64) (limit : Nat) : Nat :=
  match x with
  | finite false u => min (roundHalfUp u (Nat.pow 2 unitExponent)) limit
  | finite true _ => 0
  | infinite false => limit
  | infinite true => 0
  | nan => 0

end Binary64

/-- The value of a run of ASCII digits. -/
def digitsValue (ds : List Char) : Nat :=
  ds.foldl (fun acc c => acc * 10 + (c.toNat - '0'.toNat)) 0

/-- An exponent's digits, accumulated while the exponent is below `2^16`; larger exponents
all mean the same thing to a binary64 value. -/
def exponentValue (ds : List Char) : Nat :=
  ds.foldl (fun acc c => if acc < 0x10000 then acc * 10 + (c.toNat - '0'.toNat) else acc) 0

/-- Reads the digits, point and exponent of an unsigned decimal number that must span the
whole text: the digits as one number and the power of ten that scales them. -/
def readUnsignedDecimal (cs : List Char) : Option (Nat × Int) :=
  let whole := cs.takeWhile Char.isDigit
  let cs := cs.dropWhile Char.isDigit
  let (fraction, cs) := match cs with
    | '.' :: rest => (rest.takeWhile Char.isDigit, rest.dropWhile Char.isDigit)
    | _ => ([], cs)
  if whole.isEmpty && fraction.isEmpty then none
  else
    let exponent : Option Int := match cs with
      | [] => some 0
      | e :: rest =>
        if e = 'e' || e = 'E' then
          let (negative, rest) := match rest with
            | '-' :: r => (true, r)
            | '+' :: r => (false, r)
            | r => (false, r)
          let ds := rest.takeWhile Char.isDigit
          if ds.isEmpty || ds.length != rest.length then none
          else
            let v : Int := exponentValue ds
            some (if negative then -v else v)
        else none
    exponent.map fun x => (digitsValue (whole ++ fraction), x - fraction.length)

/-- Does the text spell `word`, ignoring ASCII case? -/
def spellsIgnoringCase (cs : List Char) (word : String) : Bool :=
  cs.map Char.toLower == word.toList

/-- Reads a binary64 number; `none` unless the whole text is a number. -/
def readBinary64 (s : String) : Option Binary64 :=
  let cs := s.toList
  let (negative, rest) := match cs with
    | '-' :: r => (true, r)
    | '+' :: r => (false, r)
    | r => (false, r)
  if rest.isEmpty then none
  else match readUnsignedDecimal rest with
    | some (digits, exponent) => some (Binary64.ofDecimal negative digits exponent)
    | none =>
      if spellsIgnoringCase rest "inf" || spellsIgnoringCase rest "infinity" then
        some (.infinite negative)
      else if spellsIgnoringCase rest "nan" then some .nan
      else none

example : readBinary64 "1.5" = some (.finite false (3 * 2 ^ 1073)) := by decide +kernel
example : readBinary64 "1e" = none := by decide +kernel
example : readBinary64 "-InFiNiTy" = some (.infinite true) := by decide +kernel

end Reachability.Number
