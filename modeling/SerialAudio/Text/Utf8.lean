/-!
# Reading bytes as text

Programs print bytes that are nearly always well-formed UTF-8. Where they are not, the damage is
kept local: the longest beginning of a character that breaks off is replaced by one U+FFFD, and
reading goes on with the byte that did not fit.

The reader is a small machine that sees one byte at a time. While a character is incomplete, the
machine knows how many bytes it still needs and which bytes may come next; the first of those may be
restricted further than the others, which is how overlong forms, surrogates and numbers beyond the
last code point are kept out.
-/

namespace SerialAudio

namespace Text

/-- What stands for bytes that are no text. -/
def replacement : Char := Char.ofNat 0xFFFD

/-- What the reader knows. -/
inductive Utf8State where
  /-- No character is incomplete. -/
  | idle
  /-- A character needs `more` further bytes after the next one, its bits so far are `bits`, and the
  next byte lies between `least` and `greatest`. -/
  | pending (more : Nat) (bits : Nat) (least greatest : UInt8)
deriving DecidableEq, Repr

/-- Read the first byte of a character. -/
def firstByte (b : UInt8) : List Char × Utf8State :=
  let n := b.toNat
  if n < 0x80 then ([Char.ofNat n], .idle)
  else if n < 0xC2 then ([replacement], .idle)
  else if n < 0xE0 then ([], .pending 0 (n - 0xC0) 0x80 0xBF)
  else if n < 0xF0 then
    ([], .pending 1 (n - 0xE0) (if n = 0xE0 then 0xA0 else 0x80) (if n = 0xED then 0x9F else 0xBF))
  else if n < 0xF5 then
    ([], .pending 2 (n - 0xF0) (if n = 0xF0 then 0x90 else 0x80) (if n = 0xF4 then 0x8F else 0xBF))
  else ([replacement], .idle)

/-- Read a byte. -/
def nextByte (s : Utf8State) (b : UInt8) : List Char × Utf8State :=
  match s with
  | .idle => firstByte b
  | .pending more bits least greatest =>
    if least ≤ b ∧ b ≤ greatest then
      let bits := 64 * bits + b.toNat % 64
      match more with
      | 0 => ([Char.ofNat bits], .idle)
      | more + 1 => ([], .pending more bits 0x80 0xBF)
    else
      let (cs, s) := firstByte b
      (replacement :: cs, s)

/-- Read bytes up to the end. -/
def readFrom : Utf8State → List UInt8 → List Char
  | .idle, [] => []
  | .pending .., [] => [replacement]
  | s, b :: bs => (nextByte s b).1 ++ readFrom (nextByte s b).2 bs

/-- The text that bytes stand for, with damage replaced. -/
def ofBytes (bytes : List UInt8) : List Char := readFrom .idle bytes

end Text

end SerialAudio
