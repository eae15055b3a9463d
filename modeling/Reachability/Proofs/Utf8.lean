import Mathlib
import Reachability.Text.Utf8

/-!
# UTF-8 decoding inverts encoding

A character is written in the fewest bytes its code point needs, and its first byte says
how many follow. A character's code point is never a surrogate and never above U+10FFFF, so
the bytes written always pass the decoder's narrower checks on a second byte (after `E0`,
`ED`, `F0` and `F4`), and the decoder rebuilds the code point from the bits it reads.

Main statement: `decode_encode`, every text reads back from its bytes.
-/

namespace Reachability.Text.Utf8

/-- `UInt8.toNat_ofNat_of_lt'` as the model writes the conversion. -/
theorem toNat_toUInt8 {m : Nat} (small : m < 256) : m.toUInt8.toNat = m :=
  UInt8.toNat_ofNat_of_lt' small

/-- A byte below `0x80` is a character of its own, whatever follows it. -/
theorem decodeFrom_ascii {b : UInt8} (small : b.toNat < 0x80) (rest : List UInt8)
    (acc : List Char) : decodeFrom (b :: rest) acc = decodeFrom rest (Char.ofNat b.toNat :: acc) := by
  cases rest <;> simp [decodeFrom, small]

/-- Decoding reads the bytes of one character back as that character. The cases follow
`encodeChar`: one byte below `0x80`, then two, three and four bytes. -/
theorem decodeFrom_encodeChar (c : Char) (rest : List UInt8) (acc : List Char) :
    decodeFrom (encodeChar c ++ rest) acc = decodeFrom rest (c :: acc) := by
  have valid : c.toNat < 0xD800 ∨ (0xDFFF < c.toNat ∧ c.toNat < 0x110000) := c.valid
  have back : Char.ofNat c.toNat = c := Char.ofNat_toNat c
  have last : (128 + c.toNat % 64).toUInt8.toNat = 128 + c.toNat % 64 := toNat_toUInt8 (by omega)
  have middle : (128 + c.toNat / 64 % 64).toUInt8.toNat = 128 + c.toNat / 64 % 64 :=
    toNat_toUInt8 (by omega)
  simp only [encodeChar]
  split_ifs with one two three
  · rw [List.singleton_append, decodeFrom_ascii (by rw [toNat_toUInt8 (by omega)]; omega),
      toNat_toUInt8 (by omega), back]
  · rw [List.cons_append, List.cons_append, List.nil_append, decodeFrom.eq_2]
    simp only [toNat_toUInt8 (show 192 + c.toNat / 64 < 256 by omega), cont, low, last]
    rw [if_neg (by omega), if_neg (by omega), if_pos (by omega), if_pos (by simp; omega),
      show (192 + c.toNat / 64) % 32 * 64 + (128 + c.toNat % 64) % 64 = c.toNat by omega, back]
  · -- three bytes: the second byte is narrowed after E0 (no overlong form) and after ED (no
    -- surrogate), both of which the code point satisfies
    rw [List.cons_append, List.cons_append, List.cons_append, List.nil_append, decodeFrom.eq_2]
    simp only [toNat_toUInt8 (show 224 + c.toNat / 4096 < 256 by omega), cont, low, last, middle]
    rw [if_neg (by omega), if_neg (by omega), if_neg (by omega), if_pos (by omega)]
    rw [if_pos (by split_ifs <;> simp <;> omega),
      show (224 + c.toNat / 4096) % 16 * 4096 + (128 + c.toNat / 64 % 64) % 64 * 64 +
        (128 + c.toNat % 64) % 64 = c.toNat by omega, back]
  · -- four bytes: a code point above U+FFFF and at most U+10FFFF
    have high : (128 + c.toNat / 4096 % 64).toUInt8.toNat = 128 + c.toNat / 4096 % 64 :=
      toNat_toUInt8 (by omega)
    rw [List.cons_append, List.cons_append, List.cons_append, List.cons_append, List.nil_append,
      decodeFrom.eq_2]
    simp only [toNat_toUInt8 (show 240 + c.toNat / 262144 < 256 by omega), cont, low, last, middle,
      high]
    rw [if_neg (by omega), if_neg (by omega), if_neg (by omega), if_neg (by omega),
      if_pos (by omega)]
    rw [if_pos (by split_ifs <;> simp <;> omega),
      show (240 + c.toNat / 262144) % 8 * 262144 + (128 + c.toNat / 4096 % 64) % 64 * 4096 +
        (128 + c.toNat / 64 % 64) % 64 * 64 + (128 + c.toNat % 64) % 64 = c.toNat by omega, back]

/-- Every text reads back from its bytes. -/
theorem decode_encode (s : String) : decode (encode s) = some s := by
  -- the decoder keeps the characters read so far, newest first
  suffices all : ∀ (cs : List Char) (acc : List Char),
      decodeFrom (cs.flatMap encodeChar) acc = some (String.ofList (acc.reverse ++ cs)) by
    simpa [decode, encode, String.ofList_toList] using all s.toList []
  intro cs
  induction cs with
  | nil => simp [decodeFrom]
  | cons c rest inductionHypothesis =>
    intro acc
    rw [List.flatMap_cons, decodeFrom_encodeChar, inductionHypothesis]
    simp

end Reachability.Text.Utf8
