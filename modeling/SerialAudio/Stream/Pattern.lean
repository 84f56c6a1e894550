import SerialAudio.Stream.Delivery
/-!
# Pattern streams

A stream for testing the way of a buffer: it plays one word over and over, throws away what it is
given, and counts both. It may be told to produce no more than so many slots for a buffer, which is
how a short chunk is made on purpose.
-/

namespace SerialAudio

/-- A stream that plays one word. -/
structure PatternStream where
  /-- The word that is played. -/
  pattern : UInt32
  /-- The most slots that are produced for one buffer. -/
  limit : Option Nat := none
  /-- How many buffers were asked for. -/
  fills : UInt64 := 0
  /-- How many captured slots were brought. -/
  consumed : UInt64 := 0
deriving DecidableEq, Repr

namespace PatternStream

/-- The number of slots produced for a buffer of `n`. -/
def share (s : PatternStream) (n : Nat) : Nat := s.limit.elim n (min · n)

/-- Fill a buffer with the pattern. -/
def fill (s : PatternStream) (buffer : List UInt32) : Delivery × PatternStream :=
  (.overlay (List.replicate (s.share buffer.length) s.pattern) buffer,
    { s with fills := s.fills + 1 })

/-- Count captured slots. -/
def consume (s : PatternStream) (buffer : List UInt32) : PatternStream :=
  { s with consumed := s.consumed + UInt64.ofNat buffer.length }

@[simp] theorem produced_fill (s : PatternStream) (buffer : List UInt32) :
    (s.fill buffer).1.produced = s.share buffer.length := by
  simp [fill]

end PatternStream

end SerialAudio
