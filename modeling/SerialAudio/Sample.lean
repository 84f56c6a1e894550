/-!
# Samples, slots and frames

The link carries 24-bit samples in 32-bit slots: a slot is the two's-complement word of a signed
sample. Both directions use the same reinterpretation of the 32 bits; only the playback side also
clamps, since a caller may hand over any 32-bit number and the wire has room for 24 bits.

The range is symmetric. The most negative 24-bit number is left out on purpose, so that negating
a sample never leaves the range.
-/

namespace SerialAudio

/-- The ways a sample may lie in its slot. The link knows one. -/
inductive SampleFormat where
  /-- A signed 24-bit sample, sign-extended to 32 bits. -/
  | signed24In32
deriving DecidableEq, Repr

namespace Sample

/-- The least sample that the link carries. -/
def least : Int32 := -8388607

/-- The greatest sample that the link carries. -/
def greatest : Int32 := 8388607

/-- The sample of the link's range that is nearest to `s`. -/
def clamp (s : Int32) : Int32 :=
  if s < least then least else if greatest < s then greatest else s

/-- The slot that carries `s`: the word of the clamped sample. -/
def toSlot (s : Int32) : UInt32 := (clamp s).toUInt32

/-- The number whose two's-complement word is `slot`. Nothing is clamped on the way in. -/
def ofSlot (slot : UInt32) : Int32 := slot.toInt32

@[simp] theorem ofSlot_toSlot (s : Int32) : ofSlot (toSlot s) = clamp s := by
  simp [ofSlot, toSlot]

end Sample

/-- One sample for each of the two channels. -/
structure Frame where
  /-- The left channel, first on the wire. -/
  left : Int32
  /-- The right channel. -/
  right : Int32
deriving DecidableEq, Repr

namespace Frame

/-- The channels of a frame. -/
def channels : Nat := 2

/-- Bit clocks in the slot of one channel. -/
def bitsPerSlot : Nat := 32

/-- Bit clocks in a frame. -/
def bits : Nat := channels * bitsPerSlot

/-- The two slots of a frame, left first. -/
def slots (f : Frame) : List UInt32 := [Sample.toSlot f.left, Sample.toSlot f.right]

/-- The frame that two captured slots carry. -/
def ofSlots (left right : UInt32) : Frame := ⟨Sample.ofSlot left, Sample.ofSlot right⟩

@[simp] theorem length_slots (f : Frame) : f.slots.length = 2 := rfl

end Frame

end SerialAudio
