/-!
# Blank characters

The characters between words, as the Unicode property White_Space lists them. The list is closed:
zero-width spaces and the byte order mark are not in it.
-/

namespace SerialAudio

namespace Text

/-- The code points of the blank characters that stand alone in their neighbourhood. -/
def loneBlanks : List Nat := [0x20, 0x85, 0xA0, 0x1680, 0x2028, 0x2029, 0x202F, 0x205F, 0x3000]

/-- Whether a character is blank. -/
def isBlank (c : Char) : Bool :=
  let n := c.toNat
  (0x09 ≤ n && n ≤ 0x0D) || (0x2000 ≤ n && n ≤ 0x200A) || loneBlanks.contains n

end Text

end SerialAudio
