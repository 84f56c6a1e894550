/-!
# Bytes in hexadecimal

Addresses on the control bus are written the way data sheets write them: `0x` and two digits, in
lower case.
-/

namespace SerialAudio

namespace Text

/-- The digit of a number below sixteen. -/
def hexDigit (n : Nat) : Char := if n < 10 then Char.ofNat (48 + n) else Char.ofNat (87 + n)

/-- The two digits of a byte. -/
def hexDigits (b : UInt8) : List Char := [hexDigit (b.toNat / 16), hexDigit (b.toNat % 16)]

/-- A byte as `0x` and two digits. -/
def hexByte (b : UInt8) : String := String.ofList ('0' :: 'x' :: hexDigits b)

/-- The number of a digit, in either case. -/
def hexValue? (c : Char) : Option Nat :=
  let n := c.toNat
  if 48 ≤ n ∧ n ≤ 57 then some (n - 48)
  else if 97 ≤ n ∧ n ≤ 102 then some (n - 87)
  else if 65 ≤ n ∧ n ≤ 70 then some (n - 55)
  else none

/-- The bytes that pairs of digits stand for. -/
def unhex? : List Char → Option (List UInt8)
  | [] => some []
  | [_] => none
  | a :: b :: rest => do
    let x ← hexValue? a
    let y ← hexValue? b
    let bytes ← unhex? rest
    return UInt8.ofNat (16 * x + y) :: bytes

end Text

end SerialAudio
