import SerialAudio.Stream.FrameQueue
/-!
# Looping back

The simplest partner of a queue is the queue itself: a buffer is filled on the playback side, and
what it got comes back on the capture side. Only the slots that were written come back. What stands
behind them in the buffer is stale and is nobody's sample.

`FrameQueue.popAll` reads the capture side until there is nothing to read. Every frame that is
popped makes the ring shorter, so there is an end to it.
-/

namespace SerialAudio

/-- The frame of the link's range that is nearest to a frame. -/
def Frame.clamp (f : Frame) : Frame := ⟨Sample.clamp f.left, Sample.clamp f.right⟩

namespace FrameQueue

/-- Fill a buffer, and bring back what was written to it. -/
def loopBack (q : FrameQueue) (buffer : List UInt32) : FrameQueue :=
  let (d, q) := q.fill buffer
  q.consume (d.buffer.take d.produced)

/-- Loop buffers back in turn. -/
def loopBackAll (q : FrameQueue) (buffers : List (List UInt32)) : FrameQueue :=
  buffers.foldl loopBack q

variable {q t : FrameQueue} {f : Frame} {buffer : List UInt32} {buffers : List (List UInt32)}

@[simp] theorem loopBackAll_nil : q.loopBackAll [] = q := rfl

@[simp] theorem loopBackAll_cons :
    q.loopBackAll (buffer :: buffers) = (q.loopBack buffer).loopBackAll buffers := rfl

/-- A frame that was popped is no longer in the ring. -/
theorem length_capture_of_pop (h : q.pop = (some f, t)) :
    t.capture.length < q.capture.length := by
  rw [pop] at h
  split at h
  · rename_i left right rest held
    cases h
    simp only [held, List.length_cons]
    omega
  · cases h

/-- Pop frames until there is none. -/
def popAll (q : FrameQueue) : List Frame × FrameQueue :=
  match _ : q.pop with
  | (none, q) => ([], q)
  | (some f, q) => let (fs, q) := q.popAll; (f :: fs, q)
termination_by q.capture.length
decreasing_by exact length_capture_of_pop ‹_›

theorem popAll_of_none (h : q.pop = (none, t)) : q.popAll = ([], t) := by
  rw [popAll]
  split <;> simp_all

theorem popAll_of_some (h : q.pop = (some f, t)) :
    q.popAll = (f :: t.popAll.1, t.popAll.2) := by
  rw [popAll]
  split <;> simp_all

end FrameQueue

end SerialAudio
