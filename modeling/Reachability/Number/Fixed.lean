import Reachability.Number.Binary64

/-!
# Fixed-point text of binary64 values

A value with a fixed number of decimal places: the exact binary value is rounded to that
many places, a tie to the even last digit. The integer part has no leading zeros beyond
a single `0`, and the fraction all its places.
-/

namespace Reachability.Number

namespace Binary64

/-- The decimal digits of `n`, with zeros in front up to `width` digits. -/
def zeroPadded (width n : Nat) : String :=
  let digits := toString n
  String.ofList (List.replicate (width - digits.length) '0') ++ digits

/-- The text of a non-negative finite value with `places` decimals; other values read as
zero. -/
def fixed (x : Binary64) (places : Nat) : String :=
  let units := match x with
    | finite false u => u
    | _ => 0
  let scaled := roundHalfEven (units * Nat.pow 10 places) (Nat.pow 2 unitExponent)
  let whole := toString (scaled / Nat.pow 10 places)
  if places = 0 then whole else whole ++ "." ++ zeroPadded places (scaled % Nat.pow 10 places)

example : (ofNat 12).fixed 1 = "12.0" := by decide +kernel
example : (divNonneg (ofNat 1) (ofNat 8)).fixed 2 = "0.12" := by decide +kernel

end Binary64

end Reachability.Number
