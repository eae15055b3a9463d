/-!
# UTF-8

Characters as bytes and back. Decoding accepts exactly the well-formed byte sequences of
the Unicode standard: shortest forms only, no surrogates, nothing above U+10FFFF.
-/

namespace Reachability.Text.Utf8

/-- The bytes of one character. -/
def encodeChar (c : Char) : List UInt8 :=
  let n := c.toNat
  if n < 0x80 then [n.toUInt8]
  else if n < 0x800 then [(0xC0 + n / 64).toUInt8, (0x80 + n % 64).toUInt8]
  else if n < 0x10000 then
    [(0xE0 + n / 4096).toUInt8, (0x80 + n / 64 % 64).toUInt8, (0x80 + n % 64).toUInt8]
  else
    [(0xF0 + n / 262144).toUInt8, (0x80 + n / 4096 % 64).toUInt8,
      (0x80 + n / 64 % 64).toUInt8, (0x80 + n % 64).toUInt8]

/-- The bytes of a text. -/
def encode (s : String) : List UInt8 := s.toList.flatMap encodeChar

/-- The number of bytes of a text. -/
def size (s : String) : Nat := (encode s).length

/-- A continuation byte `10xxxxxx` inside the given range. -/
def cont (b : UInt8) (lo hi : Nat) : Bool := lo ≤ b.toNat && b.toNat ≤ hi

/-- The low six bits of a continuation byte. -/
def low (b : UInt8) : Nat := b.toNat % 64

/-- Reads characters from the front into `acc` (newest first) while the bytes are well
formed; a text only when all bytes are read. -/
def decodeFrom : List UInt8 → List Char → Option String
  | [], acc => some (String.ofList acc.reverse)
  | b0 :: rest, acc =>
    let n0 := b0.toNat
    if n0 < 0x80 then decodeFrom rest (Char.ofNat n0 :: acc)
    else if n0 < 0xC2 then none
    else if n0 < 0xE0 then
      match rest with
      | b1 :: rest =>
        if cont b1 0x80 0xBF then decodeFrom rest (Char.ofNat ((n0 % 32) * 64 + low b1) :: acc)
        else none
      | _ => none
    else if n0 < 0xF0 then
      match rest with
      | b1 :: b2 :: rest =>
        let ok1 := if n0 = 0xE0 then cont b1 0xA0 0xBF else if n0 = 0xED then cont b1 0x80 0x9F
          else cont b1 0x80 0xBF
        if ok1 && cont b2 0x80 0xBF then
          decodeFrom rest (Char.ofNat ((n0 % 16) * 4096 + low b1 * 64 + low b2) :: acc)
        else none
      | _ => none
    else if n0 < 0xF5 then
      match rest with
      | b1 :: b2 :: b3 :: rest =>
        let ok1 := if n0 = 0xF0 then cont b1 0x90 0xBF else if n0 = 0xF4 then cont b1 0x80 0x8F
          else cont b1 0x80 0xBF
        if ok1 && cont b2 0x80 0xBF && cont b3 0x80 0xBF then
          decodeFrom rest
            (Char.ofNat ((n0 % 8) * 262144 + low b1 * 4096 + low b2 * 64 + low b3) :: acc)
        else none
      | _ => none
    else none

/-- The text of well-formed UTF-8 bytes. -/
def decode (bs : List UInt8) : Option String := decodeFrom bs []

example : decode (encode "ü日本") = some "ü日本" := by decide +kernel
example : decode [0xC0, 0x80] = none := by decide +kernel
example : decode [0xED, 0xA0, 0x80] = none := by decide +kernel

end Reachability.Text.Utf8
