import Mathlib
import Reachability.Probe.Wire
import Reachability.Proofs.Utf8

/-!
# Store records read back

Every observation that the protocol-buffer types hold (`Storable`: seconds and nanoseconds
in their signed words, a message shorter than `2^64` bytes) is read back from its record as
itself, and a sequence of records as the sequence of observations (`records_flatMap`).

The proof follows the reader. A varint is read back whenever its value fits 64 bits, since the
tenth byte then carries one bit at most (`readVarint_varint`); a key, a length-delimited value
and a text follow. A message is written field by field in the order of the field numbers,
each at most once, and each field read sets what it wrote: `Merges` says that the fields left
give the observation wanted with any fuel beyond the bytes left, and every field's lemma
passes it on from the fields after it (`merges_body`). Seconds and nanoseconds come back
through the wrap to their signed words; zero fields, never written, keep the reader's zero.
-/

namespace Reachability.Probe.Wire

open Reachability.Text
open Reachability.Time
open Reachability.Text.Utf8 (toNat_toUInt8)

/-- A varint is one byte below 128, and else the low seven bits with the continuation bit set,
followed by the varint of the rest. -/
theorem varint_eq (n : Nat) :
    varint n = if n < 128 then [n.toUInt8] else (n % 128 + 128).toUInt8 :: varint (n / 128) := by
  rw [varint]

/-- A varint has at least one byte. -/
theorem varint_ne_nil (n : Nat) : varint n ≠ [] := by
  rw [varint_eq]
  split <;> simp

/-- A field key has at least one byte. -/
theorem key_ne_nil (tag wireType : Nat) : key tag wireType ≠ [] := varint_ne_nil _

/-- Seven more bits multiply the range by 128. -/
theorem pow_seven_succ (i : Nat) : Nat.pow 2 (7 * (i + 1)) = Nat.pow 2 (7 * i) * 128 := by
  rw [show 7 * (i + 1) = 7 * i + 7 by ring]
  exact Nat.pow_add 2 (7 * i) 7

/-- At the tenth byte a varint has room for one bit only. -/
theorem lt_two_of_tenth {n : Nat} (fits : n * Nat.pow 2 (7 * 9) < Nat.pow 2 64) : n < 2 := by
  have room : Nat.pow 2 64 = 2 * Nat.pow 2 (7 * 9) := rfl
  rw [room] at fits
  exact Nat.lt_of_mul_lt_mul_right fits

/-- The reader adds each byte's seven bits at their place; the varint of `n` read from place
`i` adds `n` there, as long as the result stays below `2^64`. The induction follows `varint`:
a last byte, or seven bits and the varint of the rest. -/
theorem readVarint_go_varint (n : Nat) (i acc : Nat) (rest : Bytes)
    (fits : n * Nat.pow 2 (7 * i) < Nat.pow 2 64) :
    readVarint.go i acc (varint n ++ rest) = some (acc + n * Nat.pow 2 (7 * i), rest) := by
  induction n using Nat.strongRecOn generalizing i acc with
  | ind n inductionHypothesis =>
    rw [varint_eq]
    split
    · rename_i last
      have tenth : i = 9 → n < 2 := by
        rintro rfl
        exact lt_two_of_tenth fits
      simp only [List.singleton_append, readVarint.go, toNat_toUInt8 (show n < 256 by omega),
        Nat.mod_eq_of_lt last, if_pos last]
      rw [if_neg (by omega)]
    · rename_i more
      have notTenth : i ≠ 9 := by
        rintro rfl
        have := lt_two_of_tenth fits
        omega
      have next : n / 128 * Nat.pow 2 (7 * (i + 1)) < Nat.pow 2 64 := by
        rw [pow_seven_succ]
        calc n / 128 * (Nat.pow 2 (7 * i) * 128) = n / 128 * 128 * Nat.pow 2 (7 * i) := by ring
          _ ≤ n * Nat.pow 2 (7 * i) := Nat.mul_le_mul_right _ (Nat.div_mul_le_self n 128)
          _ < Nat.pow 2 64 := fits
      simp only [List.cons_append, readVarint.go, toNat_toUInt8 (show n % 128 + 128 < 256 by omega),
        if_neg (show ¬ (n % 128 + 128 < 128) by omega), if_neg notTenth]
      rw [inductionHypothesis (n / 128) (by omega) (i + 1) _ next, pow_seven_succ,
        show (n % 128 + 128) % 128 = n % 128 by omega]
      congr 2
      conv_rhs => rw [← Nat.div_add_mod n 128]
      ring

/-- A varint of a value below `2^64` reads back, leaving what follows. -/
theorem readVarint_varint {n : Nat} (fits : n < Nat.pow 2 64) (rest : Bytes) :
    readVarint (varint n ++ rest) = some (n, rest) := by
  have read := readVarint_go_varint n 0 0 rest (by simpa using fits)
  simpa [readVarint] using read

/-- A key reads back when its field number is positive and fits and its wire type is known. -/
theorem readKey_key {tag wireType : Nat} (named : 0 < tag) (small : tag < Nat.pow 2 29)
    (known : wireType ≤ 5) (rest : Bytes) :
    readKey (key tag wireType ++ rest) = some (⟨tag, wireType⟩, rest) := by
  have wordSize : Nat.pow 2 32 = Nat.pow 2 29 * 8 := rfl
  have fits : tag * 8 + wireType < Nat.pow 2 64 := by
    have : Nat.pow 2 64 = Nat.pow 2 29 * 8 * Nat.pow 2 32 := rfl
    rw [this]
    have : 0 < Nat.pow 2 32 := Nat.pow_pos (by decide)
    nlinarith
  simp only [readKey, key, readVarint_varint fits]
  simp only [Option.bind_eq_bind, Option.bind_some]
  rw [if_neg (by omega)]
  congr 3 <;> omega

/-- Taking exactly as many bytes as a prefix has takes the prefix. -/
theorem takeExact_append (bs rest : Bytes) : takeExact bs.length (bs ++ rest) = some (bs, rest) := by
  simp [takeExact]

/-- A length-delimited value reads back when its length fits a varint. -/
theorem readDelimited_append {bs : Bytes} (fits : bs.length < Nat.pow 2 64) (rest : Bytes) :
    readDelimited (varint bs.length ++ bs ++ rest) = some (bs, rest) := by
  simp only [readDelimited, List.append_assoc, readVarint_varint fits, Option.bind_eq_bind,
    Option.bind_some, takeExact_append]

/-- The observation with the text of field `tag` set, as reading that field does. -/
def withText (tag : Nat) (o : Observation) (s : String) : Observation :=
  match tag with
  | 1 => { o with srcHost := s }
  | 2 => { o with destHost := s }
  | 6 => { o with jobId := s }
  | 7 => { o with result := s }
  | _ => o

/-- A text field sets the text of its tag and takes one fuel. -/
theorem mergeObservation_text {tag : Nat} (text : tag = 1 ∨ tag = 2 ∨ tag = 6 ∨ tag = 7)
    {s : String} (fits : (Utf8.encode s).length < Nat.pow 2 64) (fuel : Nat) (o : Observation)
    (rest : Bytes) :
    mergeObservation (fuel + 1) o (delimited tag (Utf8.encode s) ++ rest) =
      mergeObservation fuel (withText tag o s) rest := by
  have read : readText (varint (Utf8.encode s).length ++ (Utf8.encode s ++ rest)) = some (s, rest) := by
    simp [readText, ← List.append_assoc, readDelimited_append fits, Utf8.decode_encode]
  have small : 0 < tag ∧ tag < Nat.pow 2 29 := by
    rcases text with rfl | rfl | rfl | rfl <;> decide
  have keyRead := readKey_key small.1 small.2 (show 2 ≤ 5 by decide)
    (varint (Utf8.encode s).length ++ (Utf8.encode s ++ rest))
  rcases text with rfl | rfl | rfl | rfl <;>
    simp [mergeObservation, delimited, List.append_assoc, key_ne_nil, keyRead, read, withText]

/-- A seconds and nanoseconds pair that the wire words hold: seconds a signed 64-bit word,
nanoseconds a signed 32-bit word. -/
def PairFits (seconds nanos : Int) : Prop :=
  -Int.pow 2 63 ≤ seconds ∧ seconds < Int.pow 2 63 ∧ -Int.pow 2 31 ≤ nanos ∧ nanos < Int.pow 2 31

/-- A signed value is written as the varint of its 64-bit two's complement. -/
theorem wordValue_lt (v : Int) : (v % Int.pow 2 64).toNat < Nat.pow 2 64 := by
  rw [show Int.pow 2 64 = 18446744073709551616 from rfl,
    show Nat.pow 2 64 = 18446744073709551616 from rfl]
  omega

/-- Seconds come back through the wrap to a signed 64-bit word. -/
theorem wrapSigned64_wordValue {v : Int} (lo : -Int.pow 2 63 ≤ v) (hi : v < Int.pow 2 63) :
    wrapSigned64 ((v % Int.pow 2 64).toNat : Nat) = v := by
  simp only [wrapSigned64]
  rw [show Int.pow 2 64 = 18446744073709551616 from rfl,
    show Int.pow 2 63 = 9223372036854775808 from rfl] at *
  split <;> omega

/-- Nanoseconds are written as 64-bit words and read as 32-bit ones; the low 32 bits are the
same, so a value of the signed 32-bit range comes back. -/
theorem wrapSigned32_wordValue {v : Int} (lo : -Int.pow 2 31 ≤ v) (hi : v < Int.pow 2 31) :
    wrapSigned32 ((v % Int.pow 2 64).toNat : Nat) = v := by
  simp only [wrapSigned32]
  rw [show Int.pow 2 64 = 18446744073709551616 from rfl, show Int.pow 2 32 = 4294967296 from rfl,
    show Int.pow 2 31 = 2147483648 from rfl] at *
  split <;> omega

/-- No bytes left: the pair read is the pair merged so far. -/
theorem mergePair_nil (fuel depth : Nat) (p : Int × Int) : mergePair (fuel + 1) depth p [] = some p := by
  simp [mergePair]

/-- A seconds field of the signed 64-bit range sets the seconds, through the wrap of its word. -/
theorem mergePair_seconds {v : Int} (present : v ≠ 0) (lo : -Int.pow 2 63 ≤ v) (hi : v < Int.pow 2 63)
    (fuel depth : Nat) (p : Int × Int) (rest : Bytes) :
    mergePair (fuel + 1) depth p (intField 1 v ++ rest) = mergePair fuel depth (v, p.2) rest := by
  have keyRead := readKey_key (show 0 < 1 by decide) (show 1 < Nat.pow 2 29 by decide)
    (show 0 ≤ 5 by decide) (varint (v % Int.pow 2 64).toNat ++ rest)
  have read := readVarint_varint (wordValue_lt v) rest
  have back := wrapSigned64_wordValue lo hi
  rw [intField, if_neg present]
  generalize (v % Int.pow 2 64).toNat = w at keyRead read back
  simp [mergePair, List.append_assoc, key_ne_nil, keyRead, read, back]

/-- A nanoseconds field of the signed 32-bit range sets the nanoseconds, through the wrap of its
word. -/
theorem mergePair_nanos {v : Int} (present : v ≠ 0) (lo : -Int.pow 2 31 ≤ v) (hi : v < Int.pow 2 31)
    (fuel depth : Nat) (p : Int × Int) (rest : Bytes) :
    mergePair (fuel + 1) depth p (intField 2 v ++ rest) = mergePair fuel depth (p.1, v) rest := by
  have keyRead := readKey_key (show 0 < 2 by decide) (show 2 < Nat.pow 2 29 by decide)
    (show 0 ≤ 5 by decide) (varint (v % Int.pow 2 64).toNat ++ rest)
  have read := readVarint_varint (wordValue_lt v) rest
  have back := wrapSigned32_wordValue lo hi
  rw [intField, if_neg present]
  generalize (v % Int.pow 2 64).toNat = w at keyRead read back
  simp [mergePair, List.append_assoc, key_ne_nil, keyRead, read, back]

/-- A field written for a nonzero value has a key byte and a value byte at least. -/
theorem length_intField (tag : Nat) {v : Int} (present : v ≠ 0) : 2 ≤ (intField tag v).length := by
  have keyLength := List.length_pos_iff.2 (key_ne_nil tag 0)
  have valueLength := List.length_pos_iff.2 (varint_ne_nil (v % Int.pow 2 64).toNat)
  simp only [intField, if_neg present, List.length_append]
  omega

/-- Merging the fields `bs` into the pair `p` gives `q` with any fuel beyond the bytes left:
every field read takes a byte or more. -/
def PairMerges (depth : Nat) (p : Int × Int) (bs : Bytes) (q : Int × Int) : Prop :=
  ∀ fuel, bs.length < fuel → mergePair fuel depth p bs = some q

namespace PairMerges

variable {depth : Nat} {p q : Int × Int} {rest : Bytes}

/-- No fields leave the pair as it is. -/
theorem nil : PairMerges depth p [] p := by
  intro fuel enough
  obtain ⟨f, rfl⟩ : ∃ f, fuel = f + 1 := ⟨fuel - 1, by omega⟩
  exact mergePair_nil f depth p

/-- A seconds field sets the seconds; an absent one leaves the zero there. -/
theorem seconds {v : Int} (lo : -Int.pow 2 63 ≤ v) (hi : v < Int.pow 2 63) (unset : p.1 = 0)
    (next : PairMerges depth (v, p.2) rest q) : PairMerges depth p (intField 1 v ++ rest) q := by
  by_cases absent : v = 0
  · subst absent
    have same : ((0 : Int), p.2) = p := by rw [← unset]
    simpa [intField, same] using next
  · intro fuel enough
    have long := length_intField 1 absent
    rw [List.length_append] at enough
    obtain ⟨f, rfl⟩ : ∃ f, fuel = f + 1 := ⟨fuel - 1, by omega⟩
    rw [mergePair_seconds absent lo hi]
    exact next f (by omega)

/-- A nanoseconds field sets the nanoseconds; an absent one leaves the zero there. -/
theorem nanos {v : Int} (lo : -Int.pow 2 31 ≤ v) (hi : v < Int.pow 2 31) (unset : p.2 = 0)
    (next : PairMerges depth (p.1, v) rest q) : PairMerges depth p (intField 2 v ++ rest) q := by
  by_cases absent : v = 0
  · subst absent
    have same : (p.1, (0 : Int)) = p := by rw [← unset]
    simpa [intField, same] using next
  · intro fuel enough
    have long := length_intField 2 absent
    rw [List.length_append] at enough
    obtain ⟨f, rfl⟩ : ∃ f, fuel = f + 1 := ⟨fuel - 1, by omega⟩
    rw [mergePair_nanos absent lo hi]
    exact next f (by omega)

end PairMerges

/-- The pair message of a timestamp or duration reads back, from the zero pair, as the pair
written. -/
theorem pairMerges_pairBody {seconds nanos : Int} (fits : PairFits seconds nanos) (depth : Nat) :
    PairMerges depth (0, 0) (pairBody seconds nanos) (seconds, nanos) := by
  obtain ⟨secondsLo, secondsHi, nanosLo, nanosHi⟩ := fits
  rw [pairBody, ← List.append_nil (intField 2 nanos)]
  exact .seconds secondsLo secondsHi rfl (.nanos nanosLo nanosHi rfl .nil)

/-- A timestamp or duration pair of the signed ranges, written length-delimited, reads back as
itself, leaving the bytes after it. -/
theorem readPair_delimited {seconds nanos : Int} (fits : PairFits seconds nanos)
    (short : (pairBody seconds nanos).length < Nat.pow 2 64) (rest : Bytes) :
    readPair 99 (0, 0) (varint (pairBody seconds nanos).length ++ (pairBody seconds nanos ++ rest)) =
      some (seconds, nanos, rest) := by
  have merged := pairMerges_pairBody fits 98 _ (Nat.lt_succ_self _)
  simp [readPair, ← List.append_assoc, readDelimited_append short, merged]

/-- A timestamp field, read into an observation without one, sets the timestamp written. -/
theorem mergeObservation_timestamp {o : Observation} (unset : o.timestamp = none) {s : Stamp}
    (fits : PairFits s.seconds s.nanos) (short : (pairBody s.seconds s.nanos).length < Nat.pow 2 64)
    (fuel : Nat) (rest : Bytes) :
    mergeObservation (fuel + 1) o (delimited 3 (pairBody s.seconds s.nanos) ++ rest) =
      mergeObservation fuel { o with timestamp := some s } rest := by
  have keyRead := readKey_key (show 0 < 3 by decide) (show 3 < Nat.pow 2 29 by decide)
    (show 2 ≤ 5 by decide) (varint (pairBody s.seconds s.nanos).length ++ (pairBody s.seconds s.nanos ++ rest))
  simp [mergeObservation, delimited, List.append_assoc, key_ne_nil, keyRead, unset,
    readPair_delimited fits short]

/-- A duration field, read into an observation without one, sets the duration written. -/
theorem mergeObservation_duration {o : Observation} (unset : o.duration = none) {d : Lapse}
    (fits : PairFits d.seconds d.nanos) (short : (pairBody d.seconds d.nanos).length < Nat.pow 2 64)
    (fuel : Nat) (rest : Bytes) :
    mergeObservation (fuel + 1) o (delimited 4 (pairBody d.seconds d.nanos) ++ rest) =
      mergeObservation fuel { o with duration := some d } rest := by
  have keyRead := readKey_key (show 0 < 4 by decide) (show 4 < Nat.pow 2 29 by decide)
    (show 2 ≤ 5 by decide) (varint (pairBody d.seconds d.nanos).length ++ (pairBody d.seconds d.nanos ++ rest))
  simp [mergeObservation, delimited, List.append_assoc, key_ne_nil, keyRead, unset,
    readPair_delimited fits short]

/-- The flag is written only when set, as the varint 1, and reads back as set. -/
theorem mergeObservation_flag (o : Observation) (fuel : Nat) (rest : Bytes) :
    mergeObservation (fuel + 1) o (flagField 5 true ++ rest) =
      mergeObservation fuel { o with ok := true } rest := by
  have keyRead := readKey_key (show 0 < 5 by decide) (show 5 < Nat.pow 2 29 by decide)
    (show 0 ≤ 5 by decide) ([1] ++ rest)
  have one : readVarint ([1] ++ rest) = some (1, rest) := by
    have single : varint 1 = [1] := by rw [varint_eq]; rfl
    simpa [single] using readVarint_varint (n := 1) (by decide) rest
  simp only [List.singleton_append] at keyRead one
  simp [mergeObservation, flagField, List.append_assoc, key_ne_nil, keyRead, one]

/-- Merging the fields `bs` into `o` gives `r` with any fuel beyond the bytes left: every
field read takes a byte or more. -/
def Merges (o : Observation) (bs : Bytes) (r : Observation) : Prop :=
  ∀ fuel, bs.length < fuel → mergeObservation fuel o bs = some r

/-- A length-delimited field has at least its key byte. -/
theorem length_delimited_pos (tag : Nat) (body : Bytes) : 0 < (delimited tag body).length := by
  have keyLength := List.length_pos_iff.2 (key_ne_nil tag 2)
  simp only [delimited, List.length_append]
  omega

namespace Merges

variable {o r : Observation} {rest : Bytes}

/-- No fields leave the observation as it is. -/
theorem nil : Merges o [] o := by
  intro fuel enough
  obtain ⟨f, rfl⟩ : ∃ f, fuel = f + 1 := ⟨fuel - 1, by omega⟩
  simp [mergeObservation]

/-- A field that takes one fuel and some bytes keeps the fuel beyond the bytes left. -/
theorem step {field : Bytes} {o' : Observation} (nonempty : 0 < field.length)
    (read : ∀ fuel, mergeObservation (fuel + 1) o (field ++ rest) = mergeObservation fuel o' rest)
    (next : Merges o' rest r) : Merges o (field ++ rest) r := by
  intro fuel enough
  rw [List.length_append] at enough
  obtain ⟨f, rfl⟩ : ∃ f, fuel = f + 1 := ⟨fuel - 1, by omega⟩
  rw [read]
  exact next f (by omega)

/-- A text field passes on to the fields after it; an empty text is not written, and leaves
the observation as it is when its field is still empty. -/
theorem text {tag : Nat} (isText : tag = 1 ∨ tag = 2 ∨ tag = 6 ∨ tag = 7) {s : String}
    (fits : (Utf8.encode s).length < Nat.pow 2 64) (unset : withText tag o "" = o)
    (next : Merges (withText tag o s) rest r) : Merges o (textField tag s ++ rest) r := by
  by_cases absent : s.isEmpty
  · have empty : s = "" := String.isEmpty_iff.1 absent
    subst empty
    simpa [textField, unset] using next
  · rw [textField, if_neg absent]
    exact step (length_delimited_pos _ _) (mergeObservation_text isText fits · o rest) next

/-- A timestamp field passes on to the fields after it; an absent timestamp is not written, and
leaves the observation without one. -/
theorem timestamp {ts : Option Stamp} (unset : o.timestamp = none)
    (fits : ∀ s ∈ ts, PairFits s.seconds s.nanos)
    (short : ∀ s ∈ ts, (pairBody s.seconds s.nanos).length < Nat.pow 2 64)
    (next : Merges { o with timestamp := ts } rest r) :
    Merges o (messageField 3 (ts.map fun s => pairBody s.seconds s.nanos) ++ rest) r := by
  cases ts with
  | none =>
    have same : { o with timestamp := none } = o := by rw [← unset]
    simpa [messageField, same] using next
  | some s =>
    exact step (length_delimited_pos _ _)
      (mergeObservation_timestamp unset (fits s rfl) (short s rfl) · rest) next

/-- A duration field passes on to the fields after it; an absent duration is not written, and leaves
the observation without one. -/
theorem duration {ds : Option Lapse} (unset : o.duration = none)
    (fits : ∀ d ∈ ds, PairFits d.seconds d.nanos)
    (short : ∀ d ∈ ds, (pairBody d.seconds d.nanos).length < Nat.pow 2 64)
    (next : Merges { o with duration := ds } rest r) :
    Merges o (messageField 4 (ds.map fun d => pairBody d.seconds d.nanos) ++ rest) r := by
  cases ds with
  | none =>
    have same : { o with duration := none } = o := by rw [← unset]
    simpa [messageField, same] using next
  | some d =>
    exact step (length_delimited_pos _ _)
      (mergeObservation_duration unset (fits d rfl) (short d rfl) · rest) next

/-- The outcome flag passes on to the fields after it; a false flag is not written, and leaves the
reader's false. -/
theorem flag {b : Bool} (unset : o.ok = false) (next : Merges { o with ok := b } rest r) :
    Merges o (flagField 5 b ++ rest) r := by
  cases b with
  | false =>
    have same : { o with ok := false } = o := by rw [← unset]
    simpa [flagField, same] using next
  | true =>
    exact step (by simp [flagField]) (mergeObservation_flag o · rest) next

end Merges

/-- An observation that the protocol-buffer types hold: seconds are signed 64-bit words,
nanoseconds signed 32-bit words, and its message is shorter than `2^64` bytes. -/
structure Storable (o : Observation) : Prop where
  timestamp : ∀ s ∈ o.timestamp, PairFits s.seconds s.nanos
  duration : ∀ d ∈ o.duration, PairFits d.seconds d.nanos
  short : (body o).length < Nat.pow 2 64

/-- A length-delimited field is at least as long as its value. -/
theorem length_le_delimited (tag : Nat) (bs : Bytes) : bs.length ≤ (delimited tag bs).length := by
  simp only [delimited, List.length_append]
  omega

/-- A text field is at least as long as the text's bytes. -/
theorem length_encode_le (tag : Nat) (s : String) :
    (Utf8.encode s).length ≤ (textField tag s).length := by
  by_cases absent : s.isEmpty
  · simp [String.isEmpty_iff.1 absent, Utf8.encode]
  · rw [textField, if_neg absent]
    exact length_le_delimited tag _

/-- The message of a storable observation reads back, from the blank observation, as the
observation itself. -/
theorem merges_body {o : Observation} (storable : Storable o) : Merges blank (body o) o := by
  have short := storable.short
  have src := length_encode_le 1 o.srcHost
  have dest := length_encode_le 2 o.destHost
  have job := length_encode_le 6 o.jobId
  have res := length_encode_le 7 o.result
  have stamp : ∀ s ∈ o.timestamp, (pairBody s.seconds s.nanos).length ≤
      (messageField 3 (o.timestamp.map fun s => pairBody s.seconds s.nanos)).length := by
    intro s member
    rw [Option.mem_def.1 member]
    exact length_le_delimited 3 _
  have lapse : ∀ d ∈ o.duration, (pairBody d.seconds d.nanos).length ≤
      (messageField 4 (o.duration.map fun d => pairBody d.seconds d.nanos)).length := by
    intro d member
    rw [Option.mem_def.1 member]
    exact length_le_delimited 4 _
  simp only [body, List.length_append] at short
  rw [body]
  simp only [List.append_assoc]
  rw [← List.append_nil (textField 7 o.result)]
  refine .text (Or.inl rfl) (s := o.srcHost) (by omega) rfl ?_
  refine .text (Or.inr (Or.inl rfl)) (s := o.destHost) (by omega) rfl ?_
  refine .timestamp rfl storable.timestamp (fun s member => by have := stamp s member; omega) ?_
  refine .duration rfl storable.duration (fun d member => by have := lapse d member; omega) ?_
  refine .flag rfl ?_
  refine .text (Or.inr (Or.inr (Or.inl rfl))) (s := o.jobId) (by omega) rfl ?_
  refine .text (Or.inr (Or.inr (Or.inr rfl))) (s := o.result) (by omega) rfl ?_
  have whole : withText 7 (withText 6 { withText 2 (withText 1 blank o.srcHost) o.destHost with
      timestamp := o.timestamp, duration := o.duration, ok := o.ok } o.jobId) o.result = o := by
    cases o
    rfl
  rw [whole]
  exact .nil

/-- A record reads back as its observation, leaving the bytes after it. -/
theorem readRecord_record {o : Observation} (storable : Storable o) (rest : Bytes) :
    readRecord (record o ++ rest) = some (o, rest) := by
  have merged := merges_body storable ((body o).length + 1) (Nat.lt_succ_self _)
  rw [readRecord, record, readDelimited_append storable.short]
  simp [merged]

/-- A record has at least one byte. -/
theorem length_record_pos (o : Observation) : 0 < (record o).length := by
  have lengthLength := List.length_pos_iff.2 (varint_ne_nil (body o).length)
  simp only [record, List.length_append]
  omega

/-- Records written one after another read back in order, with any fuel that covers their
bytes: each record takes a byte or more. -/
theorem recordsFrom_flatMap {os : List Observation} (storable : ∀ o ∈ os, Storable o)
    (fuel : Nat) (enough : (os.flatMap record).length ≤ fuel) :
    recordsFrom fuel (os.flatMap record) = os := by
  induction os generalizing fuel with
  | nil => cases fuel <;> simp [recordsFrom]
  | cons o rest inductionHypothesis =>
    have first := length_record_pos o
    rw [List.flatMap_cons, List.length_append] at enough
    obtain ⟨f, rfl⟩ : ∃ f, fuel = f + 1 := ⟨fuel - 1, by omega⟩
    have nonempty : (record o ++ rest.flatMap record).isEmpty = false := by
      simp only [List.isEmpty_eq_false_iff, ne_eq, List.append_eq_nil_iff, not_and]
      exact fun empty => absurd empty (List.ne_nil_of_length_pos first)
    rw [List.flatMap_cons, recordsFrom, nonempty, if_neg Bool.false_ne_true,
      readRecord_record (storable o List.mem_cons_self)]
    dsimp only
    rw [inductionHypothesis (fun x member => storable x (List.mem_cons_of_mem o member)) f
      (by omega)]

/-- A store file of records written in turn reads back as their observations. -/
theorem records_flatMap {os : List Observation} (storable : ∀ o ∈ os, Storable o) :
    records (os.flatMap record) = os :=
  recordsFrom_flatMap storable _ le_rfl

end Reachability.Probe.Wire
