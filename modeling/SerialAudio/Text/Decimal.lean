/-!
# Decimal numbers

A count is written in the ten ASCII digits, with no sign or a plus sign in front, and it has to fit
in 64 bits. Anything else is no count; in particular a sign alone is none, and leading zeros do no
harm.
-/

namespace SerialAudio

namespace Text

/-- A number in decimal digits, without leading zeros. -/
def decimal (n : Nat) : List Char := Nat.toDigits 10 n

/-- The number of an ASCII digit. -/
def digit? (c : Char) : Option Nat :=
  if '0' ≤ c ∧ c ≤ '9' then some (c.toNat - '0'.toNat) else none

/-- The number that digits stand for, behind digits that stand for `n`. -/
def digitsFrom? (n : Nat) : List Char → Option Nat
  | [] => some n
  | c :: cs => (digit? c).bind fun d => digitsFrom? (10 * n + d) cs

/-- The number that digits stand for. There has to be one. -/
def digits? : List Char → Option Nat
  | [] => none
  | cs => digitsFrom? 0 cs

/-- The greatest count, of 64 bits. -/
def greatestCount : Nat := 18446744073709551615

/-- The count that is written. -/
def count? (text : List Char) : Option Nat :=
  let n := match text with
    | '+' :: cs => digits? cs
    | cs => digits? cs
  n.filter (· ≤ greatestCount)

end Text

end SerialAudio
