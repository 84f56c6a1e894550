import SerialAudio.Stream.FrameQueue
/-!
# What a queue was asked and what it answered

The program and the transfers call a queue in any order, so a history is any list of calls.
`FrameQueue.transcript` puts each call next to its answer. That is all that can be seen from
outside, and what went into the playback ring and what came out of it are read off it without
looking at a queue.

Captured slots are another matter. Whoever brings a buffer is told nothing, so which of its slots
were kept can only be said with the queue at hand: `FrameQueue.kept` goes along the calls.
-/

namespace SerialAudio

namespace FrameQueue

/-- A queue that nobody called yet. -/
def empty (frames : Nat) : FrameQueue := { frames }

/-- The queue after calls. -/
def after (q : FrameQueue) (calls : List Call) : FrameQueue :=
  calls.foldl (fun q c => (c.perform q).2) q

/-- Calls with their answers. -/
def transcript (q : FrameQueue) : List Call → List (Call × Reply)
  | [] => []
  | c :: calls => (c, (c.perform q).1) :: (c.perform q).2.transcript calls

variable {q : FrameQueue} {c : Call} {calls more : List Call}

@[simp] theorem after_nil : q.after [] = q := rfl

@[simp] theorem after_cons : q.after (c :: calls) = (c.perform q).2.after calls := rfl

@[simp] theorem after_append : q.after (calls ++ more) = (q.after calls).after more :=
  List.foldl_append

@[simp] theorem transcript_nil : q.transcript [] = [] := rfl

@[simp] theorem transcript_cons : q.transcript (c :: calls) =
    (c, (c.perform q).1) :: (c.perform q).2.transcript calls := rfl

/-! ## Playback -/

/-- The slots of the frames that a call was told were taken. -/
def acceptedBy : Call × Reply → List UInt32
  | (.client (.push f), .client (.accepted true)) => f.slots
  | (.client (.pushAll fs), .client (.count n)) => (fs.take n).flatMap Frame.slots
  | _ => []

/-- The slots that a transfer was given. -/
def deliveredBy : Call × Reply → List UInt32
  | (.fill _, .filled d) => d.buffer.take d.produced
  | _ => []

/-- Whether a transfer was given less than it asked for. -/
def fellShort : Call × Reply → Bool
  | (.fill buffer, .filled d) => d.produced < buffer.length
  | _ => false

/-! ## Capture -/

/-- The frame that a call was given. -/
def poppedBy : Call × Reply → Option Frame
  | (.client .pop, .client (.popped f)) => f
  | _ => none

/-- The slots that a transfer brings. -/
def broughtBy : Call → List UInt32
  | .consume buffer => buffer
  | _ => []

/-- The number of pairs of a buffer that the capture ring has room for. -/
def roomFor (q : FrameQueue) (buffer : List UInt32) : Nat :=
  min (buffer.length / 2) ((q.capacity - q.capture.length) / 2)

/-- The slots of a call that are kept. -/
def keptBy (q : FrameQueue) (c : Call) : List UInt32 :=
  (broughtBy c).take (2 * q.roomFor (broughtBy c))

/-- The slots that are kept along calls. -/
def kept (q : FrameQueue) : List Call → List UInt32
  | [] => []
  | c :: calls => q.keptBy c ++ (c.perform q).2.kept calls

end FrameQueue

end SerialAudio
