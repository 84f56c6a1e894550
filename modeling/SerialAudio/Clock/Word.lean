/-!
# Words that stop at the greatest

Counters and sums of machine words that are asked for more than a word holds stop at the greatest
word instead of wrapping around. Each operation is specified through the numbers of its words, where
it is exact, and comes back to the word that is nearest.
-/

namespace SerialAudio

namespace Clock

/-- The successor, or the greatest word itself. -/
def succClamped (n : UInt32) : UInt32 :=
  if n = UInt32.ofNat (UInt32.size - 1) then n else n + 1

/-- The 64-bit word that is nearest to a number. -/
def clampWord (n : Nat) : UInt64 := UInt64.ofNat (min n (UInt64.size - 1))

/-- The product, or the greatest word if the product is none. -/
def mulClamped (a b : UInt64) : UInt64 := clampWord (a.toNat * b.toNat)

/-- The sum, or the greatest word if the sum is none. -/
def addClamped (a b : UInt64) : UInt64 := clampWord (a.toNat + b.toNat)

theorem toNat_clampWord_eq_min (n : Nat) : (clampWord n).toNat = min n (UInt64.size - 1) :=
  UInt64.toNat_ofNat_of_lt' (Nat.lt_of_le_of_lt (Nat.min_le_right _ _) (by decide))

theorem toNat_clampWord {n : Nat} (h : n < UInt64.size) : (clampWord n).toNat = n := by
  rw [toNat_clampWord_eq_min, Nat.min_eq_left (Nat.le_sub_one_of_lt h)]

end Clock

end SerialAudio
