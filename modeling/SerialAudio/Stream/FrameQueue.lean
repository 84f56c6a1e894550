import SerialAudio.Sample
import SerialAudio.Stream.Delivery
/-!
# Frame queues

A frame queue stands between a program that thinks in frames and transfers that think in slots. It
has one bounded ring of slots for each direction. The program pushes and pops frames; transfers take
slots from the playback ring and bring slots to the capture ring.

A ring is described by the list of its slots, oldest first. Two rules decide what happens at its
ends, and they differ because the two sides know different things.

* A frame is pushed whole or not at all, since half a frame would exchange the channels from then
  on. The same holds of captured slots, which are taken in pairs; a pair that finds no room is
  counted and lost, and so is a last slot without a partner.
* A transfer takes as many slots as its buffer has, whatever that number is. If the ring holds
  fewer, the transfer gets what there is, and the shortfall is counted once.

The counters are 64-bit words and wrap around.
-/

namespace SerialAudio

/-- Two bounded rings of slots with their counters. -/
structure FrameQueue where
  /-- The number of frames that each ring has room for. -/
  frames : Nat
  /-- The slots that wait to be played, oldest first. -/
  playback : List UInt32 := []
  /-- The slots that were captured and not yet read, oldest first. -/
  capture : List UInt32 := []
  /-- How many buffers could not be filled. -/
  underruns : UInt64 := 0
  /-- How many captured slots were lost. -/
  dropped : UInt64 := 0
deriving DecidableEq, Repr

namespace FrameQueue

/-- The number of slots that each ring has room for. -/
def capacity (q : FrameQueue) : Nat := 2 * q.frames

/-! ## The program's side -/

/-- Whether a ring that holds `slots` has room for one more frame. -/
def HasRoom (q : FrameQueue) (slots : List UInt32) : Prop := slots.length + 2 ≤ q.capacity

instance (q : FrameQueue) (slots : List UInt32) : Decidable (q.HasRoom slots) :=
  inferInstanceAs (Decidable (_ ≤ _))

/-- Push a frame, and tell whether it was taken. -/
def push (q : FrameQueue) (f : Frame) : Bool × FrameQueue :=
  if q.HasRoom q.playback then (true, { q with playback := q.playback ++ f.slots }) else (false, q)

/-- Push frames until one is refused, and tell how many were taken. -/
def pushAll (q : FrameQueue) : List Frame → Nat × FrameQueue
  | [] => (0, q)
  | f :: fs =>
    match q.push f with
    | (false, q) => (0, q)
    | (true, q) => let (n, q) := q.pushAll fs; (n + 1, q)

/-- Pop the oldest captured frame. -/
def pop (q : FrameQueue) : Option Frame × FrameQueue :=
  match q.capture with
  | left :: right :: rest => (some (.ofSlots left right), { q with capture := rest })
  | _ => (none, q)

/-! ## The transfers' side -/

/-- Fill a buffer from the playback ring. -/
def fill (q : FrameQueue) (buffer : List UInt32) : Delivery × FrameQueue :=
  let slots := q.playback.take buffer.length
  (.overlay slots buffer,
    { q with
      playback := q.playback.drop buffer.length
      underruns := if slots.length < buffer.length then q.underruns + 1 else q.underruns })

/-- Take a pair of captured slots, or count both as lost. -/
def capturePair (q : FrameQueue) (left right : UInt32) : FrameQueue :=
  if q.HasRoom q.capture then { q with capture := q.capture ++ [left, right] }
  else { q with dropped := q.dropped + 2 }

/-- Take the captured slots of a buffer, pair by pair. -/
def consume (q : FrameQueue) : List UInt32 → FrameQueue
  | left :: right :: rest => (q.capturePair left right).consume rest
  | [_] => { q with dropped := q.dropped + 1 }
  | [] => q

/-! ## Calls -/

/-- What the program may ask of a queue. -/
inductive ClientCall where
  /-- Push a frame. -/
  | push (f : Frame)
  /-- Push frames until one is refused. -/
  | pushAll (fs : List Frame)
  /-- Pop a frame. -/
  | pop
deriving DecidableEq, Repr

/-- What the program is told. -/
inductive ClientReply where
  /-- Whether the frame was taken. -/
  | accepted (b : Bool)
  /-- How many frames were taken. -/
  | count (n : Nat)
  /-- The frame that was popped. -/
  | popped (f : Option Frame)
deriving DecidableEq, Repr

/-- Answer the program. -/
def ClientCall.perform : ClientCall → FrameQueue → ClientReply × FrameQueue
  | .push f, q => let (b, q) := q.push f; (.accepted b, q)
  | .pushAll fs, q => let (n, q) := q.pushAll fs; (.count n, q)
  | .pop, q => let (f, q) := q.pop; (.popped f, q)

/-- What anybody may ask of a queue. -/
inductive Call where
  /-- A call from the program. -/
  | client (c : ClientCall)
  /-- A transfer wants its buffer filled. -/
  | fill (buffer : List UInt32)
  /-- A transfer brings captured slots. -/
  | consume (buffer : List UInt32)
deriving DecidableEq, Repr

/-- What the caller is told. -/
inductive Reply where
  /-- The answer to the program. -/
  | client (r : ClientReply)
  /-- The filled buffer. -/
  | filled (d : Delivery)
  /-- Nothing. -/
  | consumed
deriving DecidableEq, Repr

/-- Answer a call. -/
def Call.perform : Call → FrameQueue → Reply × FrameQueue
  | .client c, q => let (r, q) := c.perform q; (.client r, q)
  | .fill buffer, q => let (d, q) := q.fill buffer; (.filled d, q)
  | .consume buffer, q => (.consumed, q.consume buffer)

/-! ## One equation for each operation -/

variable {q : FrameQueue}

theorem push_of_hasRoom {f : Frame} (h : q.HasRoom q.playback) :
    q.push f = (true, { q with playback := q.playback ++ f.slots }) := if_pos h

theorem push_of_not_hasRoom {f : Frame} (h : ¬q.HasRoom q.playback) : q.push f = (false, q) :=
  if_neg h

@[simp] theorem playback_fill (buffer : List UInt32) :
    (q.fill buffer).2.playback = q.playback.drop buffer.length := rfl

@[simp] theorem capture_fill (buffer : List UInt32) : (q.fill buffer).2.capture = q.capture := rfl

@[simp] theorem produced_fill (buffer : List UInt32) :
    (q.fill buffer).1.produced = min buffer.length q.playback.length := by
  simp [fill]

@[simp] theorem playback_capturePair (left right : UInt32) :
    (q.capturePair left right).playback = q.playback := by
  unfold capturePair
  split <;> rfl

@[simp] theorem playback_consume (buffer : List UInt32) :
    (q.consume buffer).playback = q.playback := by
  fun_induction consume q buffer with
  | case1 q left right rest ih => rw [ih, playback_capturePair]
  | case2 => rfl
  | case3 => rfl

end FrameQueue

end SerialAudio
