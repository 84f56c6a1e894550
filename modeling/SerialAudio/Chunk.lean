/-!
# Chunks

A chunk is the number of slots that one transfer moves. Two things have to hold of it, and both are
fields of the type: it is long enough for the transfer to be worth its interrupt, and it is a whole
number of stereo frames. `Chunk.ofSlots` is the only place that looks.
-/

namespace SerialAudio

/-- Why a number of slots is no chunk. -/
inductive ChunkError where
  /-- Fewer slots than the least chunk. -/
  | tooSmall (slots : Nat)
  /-- A frame is cut in half. -/
  | odd (slots : Nat)
deriving DecidableEq, Repr

/-- The fewest slots in a chunk. -/
def Chunk.least : Nat := 32

/-- The text shown for a refused chunk. -/
def ChunkError.message : ChunkError → String
  | .tooSmall n => s!"chunk of {n} slots is below the minimum of {Chunk.least}"
  | .odd n => s!"chunk of {n} slots is not a whole number of stereo frames"

/-- The number of slots that one transfer moves. -/
structure Chunk where
  /-- The number of slots. -/
  slots : Nat
  /-- A chunk is not too short. -/
  least_le : Chunk.least ≤ slots
  /-- A chunk is made of whole frames. -/
  even : slots % 2 = 0
deriving DecidableEq, Repr

namespace Chunk

/-- The chunk of `n` slots. A number with both faults counts as too small. -/
def ofSlots (n : Nat) : Except ChunkError Chunk :=
  if h : least ≤ n then
    if e : n % 2 = 0 then .ok ⟨n, h, e⟩ else .error (.odd n)
  else .error (.tooSmall n)

/-- The number of frames in a chunk. -/
def frames (c : Chunk) : Nat := c.slots / 2

@[simp] theorem ofSlots_slots (c : Chunk) : ofSlots c.slots = .ok c := by
  simp [ofSlots, c.least_le, c.even]

/-- Chunks are ordered by their number of slots. -/
instance : Ord Chunk where
  compare a b := compare a.slots b.slots

end Chunk

end SerialAudio
