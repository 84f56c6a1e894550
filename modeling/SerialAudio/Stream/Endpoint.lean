import SerialAudio.Mode
import SerialAudio.Stream.FrameQueue
import SerialAudio.Stream.Pattern
/-!
# Endpoints

An endpoint is where a transfer ends: a stream behind a fault latch. It is told about each buffer
once, when the transfer is through with it. A transfer that failed has nothing to say about its
buffer, so the stream never hears of it; the latch does.

The latch is never cleared. An endpoint may serve several engines one after the other, and a fault
that was seen under one of them is there for the next one.
-/

namespace SerialAudio

/-- A flag that can be set and not cleared. -/
structure Latch where
  /-- Whether the latch was tripped. -/
  tripped : Bool := false
deriving DecidableEq, Repr, Inhabited

/-- Set the latch. -/
def Latch.trip (_ : Latch) : Latch := ⟨true⟩

@[simp] theorem Latch.tripped_trip (l : Latch) : l.trip.tripped = true := rfl

@[simp] theorem Latch.trip_trip (l : Latch) : l.trip.trip = l.trip := rfl

/-- A stream of samples of one of the known kinds. -/
inductive SampleStream where
  /-- A queue of frames. -/
  | queue (q : FrameQueue)
  /-- A pattern. -/
  | pattern (s : PatternStream)
deriving DecidableEq, Repr

namespace SampleStream

/-- Fill a buffer. -/
def fill : SampleStream → List UInt32 → Delivery × SampleStream
  | .queue q, buffer => let (d, q) := q.fill buffer; (d, .queue q)
  | .pattern s, buffer => let (d, s) := s.fill buffer; (d, .pattern s)

/-- Take captured slots. -/
def consume : SampleStream → List UInt32 → SampleStream
  | .queue q, buffer => .queue (q.consume buffer)
  | .pattern s, buffer => .pattern (s.consume buffer)

end SampleStream

/-- How a transfer ended. -/
inductive Transfer where
  /-- The buffer was moved. -/
  | finished (buffer : List UInt32)
  /-- The transfer broke down, and its buffer means nothing. -/
  | failed (buffer : List UInt32)
deriving DecidableEq, Repr

/-- A stream behind a fault latch. -/
structure Endpoint where
  /-- Set by the first fault. -/
  latch : Latch := {}
  /-- Where the samples come from and go to. -/
  stream : SampleStream
deriving DecidableEq, Repr

namespace Endpoint

/-- Whether a fault was seen. -/
def isFaulted (e : Endpoint) : Bool := e.latch.tripped

/-- Note a fault. -/
def trip (e : Endpoint) : Endpoint := { e with latch := e.latch.trip }

/-- A playback transfer ended: get the next buffer ready. -/
def transmitDone (e : Endpoint) : Transfer → Delivery × Endpoint
  | .finished buffer => let (d, s) := e.stream.fill buffer; (d, { e with stream := s })
  | .failed buffer => (.untouched buffer, e.trip)

/-- A capture transfer ended: take what it brought. -/
def receiveDone (e : Endpoint) : Transfer → Delivery × Endpoint
  | .finished buffer => (.untouched buffer, { e with stream := e.stream.consume buffer })
  | .failed buffer => (.untouched buffer, e.trip)

/-- A transfer ended. -/
def complete (e : Endpoint) : Direction → Transfer → Delivery × Endpoint
  | .transmit => e.transmitDone
  | .receive => e.receiveDone

/-- Answer the program behind the endpoint. Only a queue takes calls. -/
def client (e : Endpoint) (c : FrameQueue.ClientCall) :
    Option (FrameQueue.ClientReply × Endpoint) :=
  match e.stream with
  | .queue q => let (r, q) := c.perform q; some (r, { e with stream := .queue q })
  | .pattern _ => none

@[simp] theorem isFaulted_trip (e : Endpoint) : e.trip.isFaulted = true := rfl

@[simp] theorem stream_trip (e : Endpoint) : e.trip.stream = e.stream := rfl

theorem isFaulted_complete_finished (e : Endpoint) (d : Direction) (buffer : List UInt32) :
    (e.complete d (.finished buffer)).2.isFaulted = e.isFaulted := by
  cases d <;> rfl

theorem complete_failed (e : Endpoint) (d : Direction) (buffer : List UInt32) :
    e.complete d (.failed buffer) = (.untouched buffer, e.trip) := by
  cases d <;> rfl

end Endpoint

end SerialAudio
