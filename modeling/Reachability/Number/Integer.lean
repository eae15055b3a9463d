/-!
# Integers written in decimal

Reading an integer of a fixed width takes an optional sign (a minus only for signed
widths) and at least one decimal digit, nothing else. The digits are read from the left,
and the first fault found ends the reading: a character that is not a digit is an invalid
digit, and a digit that takes the value so far out of the width makes it too large (too
small after a minus). So `65536x` is too large for sixteen bits, while `6553x` holds an
invalid digit. An empty text is refused as such. The messages are the usual ones of such
readers.
-/

namespace Reachability.Number

/-- Why a text is not an integer of the width asked for. -/
inductive IntTextError where
  | empty
  | invalidDigit
  | tooLarge
  | tooSmall
deriving DecidableEq, Repr

/-- The message of a refused integer text. -/
def IntTextError.message : IntTextError → String
  | .empty => "cannot parse integer from empty string"
  | .invalidDigit => "invalid digit found in string"
  | .tooLarge => "number too large to fit in target type"
  | .tooSmall => "number too small to fit in target type"

/-- Reads digits from the left onto the value `v` read so far, away from zero in the
direction of the sign, stopping at the first character that is not a digit or the first
digit that takes the value out of `[lo, hi]`. -/
def readDigits (negative : Bool) (lo hi : Int) : Int → List Char → Except IntTextError Int
  | v, [] => .ok v
  | v, c :: rest =>
    if !c.isDigit then .error .invalidDigit
    else
      let d : Int := (c.toNat - 48 : Nat)
      let v := if negative then v * 10 - d else v * 10 + d
      if v > hi then .error .tooLarge
      else if v < lo then .error .tooSmall
      else readDigits negative lo hi v rest

/-- Reads an integer in `[lo, hi]`; a minus sign is allowed only when `signed`. -/
def readInteger (signed : Bool) (lo hi : Int) (s : String) : Except IntTextError Int :=
  let cs := s.toList
  if cs.isEmpty then .error .empty
  else
    let (negative, digits) := match cs with
      | '+' :: rest => (false, rest)
      | '-' :: rest => if signed then (true, rest) else (false, cs)
      | _ => (false, cs)
    if digits.isEmpty then .error .invalidDigit
    else readDigits negative lo hi 0 digits

/-- Reads an unsigned integer of `bits` bits. -/
def readUnsignedBits (bits : Nat) (s : String) : Except IntTextError Nat :=
  (readInteger false 0 (Int.pow 2 bits - 1) s).map Int.toNat

/-- Reads a signed integer of `bits` bits. -/
def readSignedBits (bits : Nat) (s : String) : Except IntTextError Int :=
  readInteger true (-(Int.pow 2 (bits - 1))) (Int.pow 2 (bits - 1) - 1) s

example : readUnsignedBits 16 "+80" = .ok 80 := by rfl
example : readUnsignedBits 16 "65536" = .error .tooLarge := by rfl
example : readUnsignedBits 16 "-1" = .error .invalidDigit := by rfl
example : readSignedBits 64 "-" = .error .invalidDigit := by rfl
example : readUnsignedBits 16 "65536x" = .error .tooLarge := by rfl
example : readUnsignedBits 16 "6553x" = .error .invalidDigit := by rfl
example : readUnsignedBits 16 "65535x" = .error .invalidDigit := by rfl
example : readSignedBits 8 "-129x" = .error .tooSmall := by rfl

end Reachability.Number
