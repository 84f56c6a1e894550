import SerialAudio.Stream.Endpoint
/-!
# What a stream is asked for

A transfer that ended well asks the stream behind its endpoint for one thing, which its direction
decides: a buffer that was played is to be filled again, and a buffer that was captured is to be
taken. A transfer that broke down asks for nothing.

So all that a stream knows of the transfers is a list of such calls, and `SampleStream.afterCalls`
is what is left of it. For a pattern stream the list is not even needed: it plays the same word
whatever it was asked before, and what it keeps are two numbers.
-/

namespace SerialAudio

/-- What a transfer asks of a stream: to fill a buffer for playback, or to take a captured one. -/
structure SampleStream.Call where
  /-- The direction of the transfer. -/
  direction : Direction
  /-- The buffer. -/
  buffer : List UInt32
deriving DecidableEq, Repr

namespace SampleStream

/-- The stream after a call. -/
def serve (s : SampleStream) (c : Call) : SampleStream :=
  match c.direction with
  | .transmit => (s.fill c.buffer).2
  | .receive => s.consume c.buffer

/-- The stream after calls. -/
def afterCalls (s : SampleStream) (calls : List Call) : SampleStream := calls.foldl serve s

variable {s : SampleStream} {calls more : List Call}

@[simp] theorem afterCalls_nil : s.afterCalls [] = s := rfl

@[simp] theorem afterCalls_append :
    s.afterCalls (calls ++ more) = (s.afterCalls calls).afterCalls more :=
  List.foldl_append

end SampleStream

/-- What a transfer asks for when it ends. -/
def Transfer.calls (d : Direction) : Transfer → List SampleStream.Call
  | .finished buffer => [⟨d, buffer⟩]
  | .failed _ => []

/-- **Nothing but the calls reaches the stream.** -/
theorem Endpoint.stream_complete (e : Endpoint) (d : Direction) (x : Transfer) :
    (e.complete d x).2.stream = e.stream.afterCalls (x.calls d) := by
  cases x <;> cases d <;> rfl

/-! ## Pattern streams -/

namespace PatternStream

/-- The buffers that were to be filled. -/
def fillsAmong (calls : List SampleStream.Call) : Nat := calls.countP (·.direction = .transmit)

/-- The captured slots that were brought. -/
def slotsAmong (calls : List SampleStream.Call) : Nat :=
  ((calls.filter (·.direction = .receive)).flatMap (·.buffer)).length

/-- The stream with calls added to its two numbers, which wrap around. -/
def counting (s : PatternStream) (calls : List SampleStream.Call) : PatternStream :=
  { s with
    fills := s.fills + UInt64.ofNat (fillsAmong calls)
    consumed := s.consumed + UInt64.ofNat (slotsAmong calls) }

variable {s : PatternStream} {c : SampleStream.Call} {calls : List SampleStream.Call}

@[simp] theorem counting_nil : s.counting [] = s := by
  simp [counting, fillsAmong, slotsAmong]

theorem serve_pattern : (SampleStream.pattern s).serve c = .pattern (s.counting [c]) := by
  obtain ⟨d, buffer⟩ := c
  cases d <;> simp [SampleStream.serve, SampleStream.fill, SampleStream.consume, fill, consume,
    counting, fillsAmong, slotsAmong]

theorem counting_cons : (s.counting [c]).counting calls = s.counting (c :: calls) := by
  obtain ⟨d, buffer⟩ := c
  cases d <;>
    simp [counting, fillsAmong, slotsAmong, UInt64.ofNat_add, UInt64.add_comm, UInt64.add_assoc]

/-- **A pattern stream counts its calls and keeps nothing else of them.** -/
theorem afterCalls_pattern :
    (SampleStream.pattern s).afterCalls calls = .pattern (s.counting calls) := by
  induction calls generalizing s with
  | nil => rw [SampleStream.afterCalls_nil, counting_nil]
  | cons c calls ih =>
    rw [← counting_cons, ← ih, ← serve_pattern]
    rfl

end PatternStream

end SerialAudio
