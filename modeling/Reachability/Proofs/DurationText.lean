import Mathlib
import Reachability.Time.Human
import Reachability.Proofs.HourStamp

/-!
# Duration texts read back

`writeDuration` writes the whole milliseconds of a duration as a count and the largest unit
that divides them (`h`, `m`, `s`, `ms`); `readDuration` takes the unit off the end, reads the
count as a binary64 value and rounds its product with the unit to whole milliseconds.

The suffixes are taken off in the order `ms`, `s`, `m`, `h`, and digits never end in the `m`
of `ms`, so each written unit comes back as itself (`splitUnit_hours` and its siblings). A
count is read as the binary64 value nearest to it; below `2^53` that value is the count
itself, and so is its product with the unit (`roundUnits_whole`). Hence:

* `readDuration_writeDuration_ok`: every duration of fewer than `2^64` seconds reads back;
* `readDuration_writeDuration`: while its milliseconds stay below `2^53`, it reads back as
  those milliseconds;
* `duration_text_round_trip`: the two, and what follows for whole milliseconds and for the
  durations `readDuration` itself gives.

Above `2^53` milliseconds the count is rounded to 53 significant bits, so a text may read
back as a neighbouring count.
-/

namespace Reachability.Number

namespace Binary64

/-- Rounding a quotient half to even gives at most one more than the quotient rounded down. -/
theorem roundHalfEven_le (n d : Nat) : roundHalfEven n d ≤ n / d + 1 := by
  unfold roundHalfEven
  dsimp only
  split_ifs <;> omega

/-- An exact quotient rounds to itself. -/
theorem roundHalfEven_of_dvd {n d : Nat} (positive : 0 < d) (divides : d ∣ n) :
    roundHalfEven n d = n / d := by
  have exact : n % d = 0 := Nat.mod_eq_zero_of_dvd divides
  simp [roundHalfEven, exact, positive]

/-- Over a denominator of one, the binary logarithm `floorLog2` takes is that of the numerator. -/
theorem floorLog2_one {n : Nat} (positive : n ≠ 0) : floorLog2 n 1 = (Nat.log2 n : Int) := by
  have leading : 2 ^ Nat.log2 n ≤ n := Nat.log2_self_le positive
  have one : Nat.log2 1 = 0 := by decide
  simp [floorLog2, leading, one]

/-- Over a denominator of one, `roundUnits` keeps the 53 leading bits, rounding away the
`log2 n - 52` below them. -/
theorem roundUnits_one {n : Nat} (positive : n ≠ 0) :
    roundUnits n 1 =
      if roundHalfEven n (Nat.pow 2 (Nat.log2 n - 52)) * Nat.pow 2 (Nat.log2 n - 52) > maxUnits
      then none
      else some (roundHalfEven n (Nat.pow 2 (Nat.log2 n - 52)) * Nat.pow 2 (Nat.log2 n - 52)) := by
  have shift : ((Nat.log2 n : Int) - ((precision - 1 : Nat) : Int)).toNat = Nat.log2 n - 52 := by
    simp only [precision]
    omega
  simp only [roundUnits, positive, if_false, floorLog2_one positive, shift, Nat.one_mul]

/-- Rounding a magnitude over a denominator of one at most doubles it, so it stays finite while
twice the magnitude does. -/
theorem roundUnits_one_isSome {n : Nat} (small : 2 * n ≤ maxUnits) : (roundUnits n 1).isSome := by
  by_cases zero : n = 0
  · simp [roundUnits, zero]
  · rw [roundUnits_one zero]
    have below : Nat.pow 2 (Nat.log2 n - 52) ≤ n :=
      le_trans (Nat.pow_le_pow_right (by decide) (Nat.sub_le _ _)) (Nat.log2_self_le zero)
    have rounded :
        roundHalfEven n (Nat.pow 2 (Nat.log2 n - 52)) * Nat.pow 2 (Nat.log2 n - 52) ≤ 2 * n := by
      calc roundHalfEven n (Nat.pow 2 (Nat.log2 n - 52)) * Nat.pow 2 (Nat.log2 n - 52)
          ≤ (n / Nat.pow 2 (Nat.log2 n - 52) + 1) * Nat.pow 2 (Nat.log2 n - 52) :=
            Nat.mul_le_mul_right _ (roundHalfEven_le _ _)
        _ = n / Nat.pow 2 (Nat.log2 n - 52) * Nat.pow 2 (Nat.log2 n - 52)
            + Nat.pow 2 (Nat.log2 n - 52) := by
            rw [Nat.add_mul, Nat.one_mul]
        _ ≤ n + n := Nat.add_le_add (Nat.div_mul_le_self _ _) below
        _ = 2 * n := by omega
    rw [if_neg (by omega)]
    rfl

/-- Powers of two up to `2^2045` units are finite magnitudes. -/
theorem pow_le_maxUnits {k : Nat} (room : k ≤ 2045) : Nat.pow 2 k ≤ maxUnits := by
  rw [maxUnits]
  -- a variable in place of the exponent keeps elaboration from evaluating `2^2045`
  generalize 2045 = top at room ⊢
  have positive : 0 < Nat.pow 2 53 - 1 := by decide
  calc Nat.pow 2 k ≤ Nat.pow 2 top := Nat.pow_le_pow_right (by decide) room
    _ ≤ (Nat.pow 2 53 - 1) * Nat.pow 2 top := Nat.le_mul_of_pos_left _ positive

/-- A magnitude below `2^(53 + u)` has at most `u` bits below its leading 53. -/
theorem log2_sub_le {n u : Nat} (positive : n ≠ 0) (small : n < Nat.pow 2 (53 + u)) :
    Nat.log2 n - 52 ≤ u := by
  have leading := (Nat.log2_lt positive).2 small
  omega

/-- A significand of fewer than 53 bits, scaled by `2^u` within the finite range, is kept
exactly. -/
theorem roundUnits_significand {m u : Nat} (fits : m < Nat.pow 2 53) (room : 53 + u ≤ 2045) :
    roundUnits (m * Nat.pow 2 u) 1 = some (m * Nat.pow 2 u) := by
  by_cases zero : m = 0
  · simp [roundUnits, zero]
  · have positive : m * Nat.pow 2 u ≠ 0 := Nat.mul_ne_zero zero (Nat.two_pow_pos u).ne'
    have small : m * Nat.pow 2 u < Nat.pow 2 (53 + u) := by
      have scaled : m * Nat.pow 2 u < Nat.pow 2 53 * Nat.pow 2 u :=
        Nat.mul_lt_mul_of_pos_right fits (Nat.two_pow_pos u)
      rwa [Nat.pow_eq, Nat.pow_eq, ← Nat.pow_add] at scaled
    have divides : Nat.pow 2 (Nat.log2 (m * Nat.pow 2 u) - 52) ∣ m * Nat.pow 2 u :=
      Dvd.dvd.mul_left (Nat.pow_dvd_pow 2 (log2_sub_le positive small)) m
    have below : m * Nat.pow 2 u ≤ maxUnits := le_trans small.le (pow_le_maxUnits room)
    have scale : 0 < Nat.pow 2 (Nat.log2 (m * Nat.pow 2 u) - 52) := Nat.two_pow_pos _
    rw [roundUnits_one positive, roundHalfEven_of_dvd scale divides,
      Nat.div_mul_cancel divides, if_neg (by omega)]

/-- A whole number below `2^53` is a binary64 value exactly. -/
theorem roundUnits_whole {m : Nat} (fits : m < Nat.pow 2 53) :
    roundUnits (m * Nat.pow 2 unitExponent) 1 = some (m * Nat.pow 2 unitExponent) :=
  roundUnits_significand fits (by decide)

/-- A whole count below `2^53`, over a denominator of one, is that count as a binary64 value. -/
theorem ofRatio_whole {m : Nat} (fits : m < Nat.pow 2 53) :
    ofRatio false (m * Nat.pow 2 unitExponent) 1 = finite false (m * Nat.pow 2 unitExponent) := by
  rw [ofRatio, roundUnits_whole fits]

/-- A magnitude whose double is finite, over a denominator of one, rounds to a finite value. -/
theorem exists_ofRatio_finite {n : Nat} (small : 2 * n ≤ maxUnits) :
    ∃ u, ofRatio false n 1 = finite false u := by
  obtain ⟨u, rounded⟩ := Option.isSome_iff_exists.1 (roundUnits_one_isSome small)
  exact ⟨u, by simp [ofRatio, rounded]⟩

/-- A number of at most `w` digits is below `10^w`. -/
theorem decimalLength_le {n w : Nat} (fits : n < Nat.pow 10 w) (wide : 0 < w) :
    decimalLength n ≤ w := by
  have short := (Nat.length_toDigits_le_iff (b := 10) (n := n) (by decide) wide).2 fits
  simpa [decimalLength, ← String.length_toList] using short

/-- A count below `2^74` (every count of milliseconds of fewer than `2^64` seconds) has far
fewer digits than the 310 past which `ofDecimal` gives up. -/
theorem decimalLength_of_lt {n : Nat} (fits : n < Nat.pow 2 74) : decimalLength n ≤ 310 :=
  le_trans (decimalLength_le (lt_trans fits (by decide)) (by decide : 0 < 23)) (by decide)

/-- A whole decimal number of a sensible length is its binary64 rounding over one. -/
theorem ofDecimal_whole {n : Nat} (short : decimalLength n ≤ 310) :
    ofDecimal false n 0 = ofRatio false (n * Nat.pow 2 unitExponent) 1 := by
  by_cases zero : n = 0
  · rw [ofDecimal, if_pos zero, zero, Nat.zero_mul, ofRatio, roundUnits, if_pos rfl]
  · have inRange : ¬ (decimalLength n : Int) + 0 > 310 := by omega
    have notTiny : ¬ (decimalLength n : Int) + 0 < -330 := by omega
    have unscaled : Nat.pow 10 (Int.toNat 0) = 1 := rfl
    rw [ofDecimal, if_neg zero]
    dsimp only
    rw [if_neg inRange, if_neg notTiny, if_pos (le_refl 0), unscaled, Nat.mul_one]

/-- Every count below `2^74` reads as a finite, non-negative binary64 value. -/
theorem ofDecimal_finite {n : Nat} (fits : n < Nat.pow 2 74) :
    ∃ u, ofDecimal false n 0 = finite false u := by
  have scaled : ∀ u, 2 * (n * Nat.pow 2 u) < Nat.pow 2 (75 + u) := fun u =>
    calc 2 * (n * Nat.pow 2 u)
        < 2 * (Nat.pow 2 74 * Nat.pow 2 u) :=
          Nat.mul_lt_mul_of_pos_left (Nat.mul_lt_mul_of_pos_right fits (Nat.two_pow_pos u))
            (by decide)
      _ = Nat.pow 2 (75 + u) := by
          rw [← Nat.mul_assoc, Nat.pow_eq, Nat.pow_eq, Nat.pow_eq, Nat.pow_add]
  rw [ofDecimal_whole (decimalLength_of_lt fits)]
  exact exists_ofRatio_finite (le_trans (scaled unitExponent).le (pow_le_maxUnits (by decide)))

/-- Multiplying a whole count by a whole factor is exact while the product stays below `2^53`. -/
theorem mulNat_whole {q k : Nat} (fits : q * k < Nat.pow 2 53) :
    (finite false (q * Nat.pow 2 unitExponent)).mulNat k =
      finite false (q * k * Nat.pow 2 unitExponent) := by
  have regroup : q * Nat.pow 2 unitExponent * k = q * k * Nat.pow 2 unitExponent := by
    rw [Nat.mul_assoc, Nat.mul_comm (Nat.pow 2 unitExponent) k, ← Nat.mul_assoc]
  simp only [mulNat, regroup, ofRatio_whole fits]

/-- A whole number of units rounds to itself, saturated at the limit. -/
theorem roundToCount_whole (m limit : Nat) :
    roundToCount (finite false (m * Nat.pow 2 unitExponent)) limit = min m limit := by
  have positive : 0 < Nat.pow 2 unitExponent := by
    generalize unitExponent = u
    exact Nat.two_pow_pos u
  have quotient : m * Nat.pow 2 unitExponent / Nat.pow 2 unitExponent = m :=
    Nat.mul_div_cancel m positive
  have remainder : m * Nat.pow 2 unitExponent % Nat.pow 2 unitExponent = 0 := Nat.mul_mod_left _ _
  simp only [roundToCount, roundHalfUp, quotient, remainder, Nat.mul_zero, ge_iff_le,
    Nat.le_zero, positive.ne', if_false]

end Binary64

/-- Reading the decimal digits of a number gives the number back. -/
theorem digitsValue_toDigits (n : Nat) : digitsValue (Nat.toDigits 10 n) = n := by
  have fold : digitsValue (Nat.toDigits 10 n) = Nat.ofDigitChars 10 (Nat.toDigits 10 n) 0 := by
    simp only [digitsValue, Nat.ofDigitChars, Nat.mul_comm]
  rw [fold, Nat.ofDigitChars_ten_toDigits]

/-- A nonempty run of decimal digits reads as its value, with no exponent. -/
theorem readUnsignedDecimal_digits {ds : List Char} (digits : ∀ c ∈ ds, c.isDigit = true)
    (nonempty : ds ≠ []) : readUnsignedDecimal ds = some (digitsValue ds, 0) := by
  have whole : ds.takeWhile Char.isDigit = ds := List.takeWhile_eq_self_iff.2 digits
  have rest : ds.dropWhile Char.isDigit = [] := List.dropWhile_eq_nil_iff.2 digits
  have named : ds.isEmpty = false := List.isEmpty_eq_false_iff.2 nonempty
  simp [readUnsignedDecimal, whole, rest, named]

/-- The decimal digits of a number read as that number. -/
theorem readBinary64_toString (n : Nat) :
    readBinary64 (toString n) = some (Binary64.ofDecimal false n 0) := by
  have chars : (toString n).toList = Nat.toDigits 10 n := by simp
  have digits : ∀ c ∈ Nat.toDigits 10 n, c.isDigit = true :=
    fun c held => Nat.isDigit_of_mem_toDigits (by decide) (by decide) held
  obtain ⟨first, rest, split⟩ := List.exists_cons_of_ne_nil (Nat.toDigits_ne_nil (b := 10) (n := n))
  have notSign : first ≠ '-' ∧ first ≠ '+' := by
    have digit := digits first (split ▸ List.mem_cons_self)
    constructor <;> rintro rfl <;> simp at digit
  unfold readBinary64
  rw [chars, split]
  dsimp only
  -- the sign patterns cannot match a leading digit
  split
  · next r same => exact absurd (List.cons.inj same).1 notSign.1
  · next r same => exact absurd (List.cons.inj same).1 notSign.2
  · have read := readUnsignedDecimal_digits (split ▸ digits) (List.cons_ne_nil first rest)
    rw [← split] at read ⊢
    simp [read, digitsValue_toDigits]

end Reachability.Number

namespace Reachability.Text

/-- A text that starts with no blank loses nothing to `dropBlanks`. -/
theorem dropBlanks_of_forall {cs : List Char} (none : ∀ c ∈ cs, isBlank c = false) :
    dropBlanks cs = cs := by
  cases cs with
  | nil => rfl
  | cons c more => simp [dropBlanks, none c List.mem_cons_self]

/-- A text with no blank character is its own trim. -/
theorem trimBlanks_of_forall {s : String} (none : ∀ c ∈ s.toList, isBlank c = false) :
    trimBlanks s = s := by
  have back : ∀ c ∈ s.toList.reverse, isBlank c = false :=
    fun c held => none c (List.mem_reverse.1 held)
  simp [trimBlanks, dropBlanks_of_forall none, dropBlanks_of_forall back]

end Reachability.Text

namespace Reachability.Time

open Reachability.Number

/-- A text ends with another exactly when the other's characters are a suffix of its own. -/
theorem endsWith_iff (s t : String) : s.endsWith t = true ↔ t.toList <:+ s.toList := by
  rw [String.endsWith, String.Slice.endsWith_string_iff, String.copy_toSlice]

/-- Dropping from the end as many characters as a suffix has leaves the text before the suffix. -/
theorem dropEnd_append_copy (s t : String) {n : Nat} (whole : t.length = n) :
    ((s ++ t).dropEnd n).copy = s := by
  subst whole
  apply String.toList_inj.1
  simp [← String.length_toList]

/-- No decimal digit is the letter `m`. -/
theorem m_not_mem_toDigits (q : Nat) : 'm' ∉ Nat.toDigits 10 q := fun held => by
  simpa using Nat.isDigit_of_mem_toDigits (by decide) (by decide) held

/-! The four units `writeDuration` writes come back from `splitUnit` as themselves. -/

/-- A count followed by `h` is read as that count of hours. -/
theorem splitUnit_hours (q : Nat) : splitUnit (toString q ++ "h") = (toString q, 3600000) := by
  simp [splitUnit, endsWith_iff, ← List.reverse_prefix]
  exact dropEnd_append_copy _ "h" (by decide)

/-- A count followed by `m` is read as that count of minutes. -/
theorem splitUnit_minutes (q : Nat) : splitUnit (toString q ++ "m") = (toString q, 60000) := by
  simp [splitUnit, endsWith_iff, ← List.reverse_prefix]
  exact dropEnd_append_copy _ "m" (by decide)

/-- A count followed by `s` is read as that count of seconds: its digits never end in the `m` of
`ms`. -/
theorem splitUnit_seconds (q : Nat) : splitUnit (toString q ++ "s") = (toString q, 1000) := by
  -- digits never end in the `m` of `ms`
  have notMilli : ¬ ['m'] <+: (Nat.toDigits 10 q).reverse := fun pre =>
    m_not_mem_toDigits q (List.mem_reverse.1 (pre.subset (List.mem_singleton_self 'm')))
  simp [splitUnit, endsWith_iff, ← List.reverse_prefix, notMilli]
  exact dropEnd_append_copy _ "s" (by decide)

/-- A count followed by `ms` is read as that count of milliseconds. -/
theorem splitUnit_millis (q : Nat) : splitUnit (toString q ++ "ms") = (toString q, 1) := by
  simp [splitUnit, endsWith_iff, ← List.reverse_prefix]
  exact dropEnd_append_copy _ "ms" (by decide)

/-- A written duration is a count of its unit followed by the unit's suffix, which
`splitUnit` takes off again and which holds no blank. -/
theorem writeDuration_shape (d : Elapsed) :
    ∃ unit suffix, 0 < unit ∧ unit ∣ d.millis ∧
      writeDuration d = toString (d.millis / unit) ++ suffix ∧
      splitUnit (toString (d.millis / unit) ++ suffix) = (toString (d.millis / unit), unit) ∧
      ∀ c ∈ suffix.toList, Text.isBlank c = false := by
  unfold writeDuration
  dsimp only
  split_ifs with hours minutes seconds
  · exact ⟨3600000, "h", by decide, Nat.dvd_of_mod_eq_zero hours.1, rfl, splitUnit_hours _,
      by simp [Text.isBlank]⟩
  · exact ⟨60000, "m", by decide, Nat.dvd_of_mod_eq_zero minutes.1, rfl, splitUnit_minutes _,
      by simp [Text.isBlank]⟩
  · exact ⟨1000, "s", by decide, Nat.dvd_of_mod_eq_zero seconds, rfl, splitUnit_seconds _,
      by simp [Text.isBlank]⟩
  · refine ⟨1, "ms", by decide, Nat.one_dvd _, ?_, ?_, by simp [Text.isBlank]⟩ <;> rw [Nat.div_one]
    exact splitUnit_millis _

/-- A count followed by a unit that `splitUnit` takes off again reads as the count's binary64
value times the unit. -/
theorem readDuration_toString_append {q unit : Nat} {suffix : String}
    (split : splitUnit (toString q ++ suffix) = (toString q, unit))
    (letters : ∀ c ∈ suffix.toList, Text.isBlank c = false) :
    readDuration (toString q ++ suffix) =
      if !(Binary64.ofDecimal false q 0).isFinite || (Binary64.ofDecimal false q 0).isNegative
      then .error (.outOfRange (toString q ++ suffix))
      else .ok (Elapsed.ofMillis
        (((Binary64.ofDecimal false q 0).mulNat unit).roundToCount maxTextMillis)) := by
  have digits : ∀ c ∈ (toString q).toList, Text.isBlank c = false := by
    intro c held
    have digit : c ∈ Nat.toDigits 10 q := by simpa using held
    exact HourStamp.not_isBlank_of_isDigit (Nat.isDigit_of_mem_toDigits (by decide) (by decide) digit)
  have whole : ∀ c ∈ (toString q ++ suffix).toList, Text.isBlank c = false := by
    intro c held
    rw [String.toList_append, List.mem_append] at held
    exact held.elim (digits c) (letters c)
  unfold readDuration
  rw [Text.trimBlanks_of_forall whole]
  dsimp only
  rw [split]
  dsimp only
  rw [Text.trimBlanks_of_forall digits, readBinary64_toString]

/-- Such a text with a count below `2^74` is always accepted. -/
theorem readDuration_toString_append_ok {q unit : Nat} {suffix : String}
    (split : splitUnit (toString q ++ suffix) = (toString q, unit))
    (letters : ∀ c ∈ suffix.toList, Text.isBlank c = false) (fits : q < Nat.pow 2 74) :
    ∃ e, readDuration (toString q ++ suffix) = .ok e := by
  obtain ⟨u, finite⟩ := Binary64.ofDecimal_finite fits
  rw [readDuration_toString_append split letters, finite]
  exact ⟨_, rfl⟩

/-- Below `2^53` milliseconds the count and its product with the unit are exact. -/
theorem readDuration_toString_append_exact {q unit : Nat} {suffix : String}
    (split : splitUnit (toString q ++ suffix) = (toString q, unit))
    (letters : ∀ c ∈ suffix.toList, Text.isBlank c = false) (positive : 0 < unit)
    (fits : q * unit < Nat.pow 2 53) :
    readDuration (toString q ++ suffix) = .ok (Elapsed.ofMillis (q * unit)) := by
  have count : q < Nat.pow 2 53 := lt_of_le_of_lt (Nat.le_mul_of_pos_right q positive) fits
  have capped : q * unit ≤ maxTextMillis :=
    le_trans fits.le (by decide : Nat.pow 2 53 ≤ Nat.pow 2 64 - 1)
  rw [readDuration_toString_append split letters,
    Binary64.ofDecimal_whole (Binary64.decimalLength_of_lt (lt_trans count (by decide))),
    Binary64.ofRatio_whole count, Binary64.mulNat_whole fits, Binary64.roundToCount_whole,
    Nat.min_eq_left capped]
  rfl

/-- Every duration of fewer than `2^64` seconds reads back from its text. -/
theorem readDuration_writeDuration_ok (d : Elapsed) (bounded : d.nanos < Elapsed.limit) :
    ∃ e, readDuration (writeDuration d) = .ok e := by
  obtain ⟨unit, suffix, positive, _, written, split, letters⟩ := writeDuration_shape d
  have millis : d.millis < Nat.pow 2 74 := by
    have below : d.millis < Nat.pow 2 64 * 1000 :=
      Nat.div_lt_of_lt_mul (by simpa [Elapsed.limit, nanosPerSecond, nanosPerMilli, Nat.mul_assoc]
        using bounded)
    exact lt_trans below (by decide)
  rw [written]
  exact readDuration_toString_append_ok split letters
    (lt_of_le_of_lt (Nat.div_le_self _ _) millis)

/-- While its milliseconds stay below `2^53`, a duration's text reads back as exactly those
milliseconds. -/
theorem readDuration_writeDuration (d : Elapsed) (fits : d.millis < Nat.pow 2 53) :
    readDuration (writeDuration d) = .ok (Elapsed.ofMillis d.millis) := by
  obtain ⟨unit, suffix, positive, divides, written, split, letters⟩ := writeDuration_shape d
  have whole : d.millis / unit * unit = d.millis := Nat.div_mul_cancel divides
  rw [written, readDuration_toString_append_exact split letters positive (by rwa [whole]), whole]

/-- A duration of whole milliseconds is the duration of its milliseconds. -/
theorem Elapsed.ofMillis_millis {d : Elapsed} (whole : d.nanos % nanosPerMilli = 0) :
    Elapsed.ofMillis d.millis = d := by
  have split := Nat.div_add_mod d.nanos nanosPerMilli
  cases d
  simp only [Elapsed.ofMillis, Elapsed.millis, Elapsed.mk.injEq] at whole split ⊢
  rw [whole, Nat.add_zero] at split
  rw [Nat.mul_comm]
  exact split

/-- A duration made of milliseconds has that many milliseconds. -/
theorem Elapsed.millis_ofMillis (ms : Nat) : (Elapsed.ofMillis ms).millis = ms := by
  simp [Elapsed.ofMillis, Elapsed.millis, nanosPerMilli]

/-- `readDuration` only ever gives whole milliseconds. -/
theorem readDuration_whole {s : String} {e : Elapsed} (read : readDuration s = .ok e) :
    ∃ ms, e = Elapsed.ofMillis ms := by
  unfold readDuration at read
  dsimp only at read
  split at read
  · cases read
  · split_ifs at read
    cases read
    exact ⟨_, rfl⟩

/-- Written durations read back: always for fewer than `2^64` seconds, as their milliseconds
below `2^53` of them, as themselves when they are whole milliseconds, and so every duration
`readDuration` gives below `2^53` milliseconds survives writing and reading again. -/
theorem duration_text_round_trip :
    (∀ d : Elapsed, d.nanos < Elapsed.limit → ∃ e, readDuration (writeDuration d) = .ok e) ∧
    (∀ d : Elapsed, d.millis < Nat.pow 2 53 →
      readDuration (writeDuration d) = .ok (Elapsed.ofMillis d.millis)) ∧
    (∀ d : Elapsed, d.nanos % nanosPerMilli = 0 → d.millis < Nat.pow 2 53 →
      readDuration (writeDuration d) = .ok d) ∧
    (∀ (s : String) (e : Elapsed), readDuration s = .ok e → e.millis < Nat.pow 2 53 →
      readDuration (writeDuration e) = .ok e) := by
  refine ⟨readDuration_writeDuration_ok, readDuration_writeDuration, ?_, ?_⟩
  · intro d whole fits
    rw [readDuration_writeDuration d fits, Elapsed.ofMillis_millis whole]
  · intro s e read fits
    obtain ⟨ms, rfl⟩ := readDuration_whole read
    rw [readDuration_writeDuration _ fits, Elapsed.millis_ofMillis]

/-- Two hours are written `2h` and read back as themselves. -/
theorem two_hours_read_back :
    (Elapsed.ofMillis 7200000).nanos % nanosPerMilli = 0 ∧
      (Elapsed.ofMillis 7200000).millis < Nat.pow 2 53 ∧
      readDuration (writeDuration (Elapsed.ofMillis 7200000)) = .ok (Elapsed.ofMillis 7200000) :=
  ⟨by decide, by decide, duration_text_round_trip.2.2.1 _ (by decide) (by decide)⟩

end Reachability.Time
