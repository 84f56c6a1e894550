import SerialAudio.Stream.History
/-!
# One equation for each call

Pushing a list of frames and taking a captured buffer are loops, and each goes round as long as
there is room. Here they are written without the loop: the number of rounds is computed from the
lengths beforehand, and what comes of them is the queue with one or two fields replaced. A field
that an equation does not mention is a field that the call does not touch.

A transfer may take any number of slots, so a ring need not hold whole frames, and room for frames
is half the free slots rounded down.

## Main results

* `pushAll_eq`, `fill_eq`, `consume_eq` — what a call answers and what it leaves, without the loop
* `call_case` — the seven things that can come of a call
* `frames_after` — a queue keeps its size
-/

namespace SerialAudio

theorem Frame.length_flatMap_slots (fs : List Frame) :
    (fs.flatMap slots).length = 2 * fs.length := by
  induction fs with
  | nil => rfl
  | cons f fs ih =>
    rw [List.flatMap_cons, List.length_append, length_slots, ih, List.length_cons]
    omega

namespace FrameQueue

variable {q t : FrameQueue} {c : Call} {r : Reply} {calls : List Call}

/-! ## Playback -/

/-- The number of frames of a list that the playback ring takes. -/
def takes (q : FrameQueue) (fs : List Frame) : Nat :=
  min fs.length ((q.capacity - q.playback.length) / 2)

/-- **A list of frames is taken as far as there is room for whole frames.** -/
theorem pushAll_eq (fs : List Frame) :
    q.pushAll fs = (q.takes fs,
      { q with playback := q.playback ++ (fs.take (q.takes fs)).flatMap Frame.slots }) := by
  induction fs generalizing q with
  | nil => simp [pushAll, takes]
  | cons f fs ih =>
    rw [pushAll]
    by_cases h : q.HasRoom q.playback
    · -- two slots fewer are free for the others, which is one frame
      have hroom : q.playback.length + 2 ≤ q.capacity := h
      have htakes : q.takes (f :: fs) =
          takes { q with playback := q.playback ++ f.slots } fs + 1 := by
        have hcap : capacity { q with playback := q.playback ++ f.slots } = q.capacity := rfl
        simp only [takes, hcap, List.length_append, Frame.length_slots, List.length_cons]
        omega
      rw [push_of_hasRoom h, htakes, List.take_succ_cons, List.flatMap_cons, ← List.append_assoc]
      dsimp only
      rw [ih]
    · have hroom : ¬q.playback.length + 2 ≤ q.capacity := h
      have htakes : q.takes (f :: fs) = 0 := by
        simp only [takes]
        omega
      rw [push_of_not_hasRoom h, htakes]
      simp

/-- The number of slots that a transfer gets for its buffer. -/
def gives (q : FrameQueue) (buffer : List UInt32) : Nat := min buffer.length q.playback.length

theorem length_take_gives (buffer : List UInt32) :
    (q.playback.take (q.gives buffer)).length = q.gives buffer :=
  List.length_take_of_le (Nat.min_le_right ..)

/-- **A buffer gets what there is, from its beginning on.** -/
theorem fill_eq (buffer : List UInt32) :
    q.fill buffer =
      (⟨q.gives buffer, q.playback.take (q.gives buffer) ++ buffer.drop (q.gives buffer)⟩,
      { q with
        playback := q.playback.drop (q.gives buffer)
        underruns :=
          if q.gives buffer < buffer.length then q.underruns + 1 else q.underruns }) := by
  have htake : q.playback.take buffer.length = q.playback.take (q.gives buffer) :=
    List.take_eq_take_min
  have hdrop : q.playback.drop buffer.length = q.playback.drop (q.gives buffer) := by
    rw [List.drop_eq_drop_min]
    rfl
  rw [fill, Delivery.overlay, htake, hdrop, length_take_gives]

/-! ## Capture -/

theorem pop_of_capture_eq {left right : UInt32} {rest : List UInt32}
    (h : q.capture = left :: right :: rest) :
    q.pop = (some (.ofSlots left right), { q with capture := rest }) := by
  rw [pop, h]

theorem pop_of_length_lt (h : q.capture.length < 2) : q.pop = (none, q) := by
  rw [pop]
  split
  · rename_i hc
    rw [hc] at h
    simp only [List.length_cons] at h
    omega
  · rfl

theorem capturePair_of_hasRoom {left right : UInt32} (h : q.HasRoom q.capture) :
    q.capturePair left right = { q with capture := q.capture ++ [left, right] } := if_pos h

theorem capturePair_of_not_hasRoom {left right : UInt32} (h : ¬q.HasRoom q.capture) :
    q.capturePair left right = { q with dropped := q.dropped + 2 } := if_neg h

/-- **A captured buffer is kept pair by pair as far as there is room, and the rest is counted.** -/
theorem consume_eq (buffer : List UInt32) :
    q.consume buffer =
      { q with
        capture := q.capture ++ buffer.take (2 * q.roomFor buffer)
        dropped := q.dropped + UInt64.ofNat (buffer.length - 2 * q.roomFor buffer) } := by
  fun_induction consume q buffer with
  | case1 q left right rest ih =>
    rw [ih]
    by_cases h : q.HasRoom q.capture
    · have hroom : q.capture.length + 2 ≤ q.capacity := h
      have hpairs : q.roomFor (left :: right :: rest) =
          roomFor { q with capture := q.capture ++ [left, right] } rest + 1 := by
        have hcap : capacity { q with capture := q.capture ++ [left, right] } = q.capacity := rfl
        simp only [roomFor, hcap, List.length_append, List.length_cons, List.length_nil]
        omega
      rw [capturePair_of_hasRoom h, hpairs]
      generalize roomFor { q with capture := q.capture ++ [left, right] } rest = pairs
      have hlost : (left :: right :: rest).length - 2 * (pairs + 1) = rest.length - 2 * pairs := by
        simp only [List.length_cons]
        omega
      rw [hlost, Nat.mul_add]
      simp
    · -- no room for this pair is no room for any other
      have hroom : ¬q.capture.length + 2 ≤ q.capacity := h
      have hpairs : q.roomFor (left :: right :: rest) = 0 := by
        simp only [roomFor]
        omega
      have hrest : roomFor { q with dropped := q.dropped + 2 } rest = 0 := by
        have hcap : capacity { q with dropped := q.dropped + 2 } = q.capacity := rfl
        simp only [roomFor, hcap]
        omega
      rw [capturePair_of_not_hasRoom h, hpairs, hrest]
      have hlost : UInt64.ofNat ((left :: right :: rest).length - 2 * 0) =
          2 + UInt64.ofNat (rest.length - 2 * 0) := by
        rw [Nat.mul_zero, Nat.sub_zero, Nat.sub_zero, UInt64.add_comm]
        exact UInt64.ofNat_add rest.length 2
      rw [hlost, ← UInt64.add_assoc]
      simp
  | case2 q slot => simp [roomFor]
  | case3 q => simp [roomFor]

/-! ## Any call -/

/-- What comes of a call, with the whole queue that it leaves. -/
inductive CallCase (q : FrameQueue) : Call → Reply → FrameQueue → Prop where
  /-- There is room for the frame. -/
  | pushed {f : Frame} (room : q.playback.length + 2 ≤ q.capacity) :
      CallCase q (.client (.push f)) (.client (.accepted true))
        { q with playback := q.playback ++ f.slots }
  /-- There is none, and nothing happens. -/
  | refused {f : Frame} (full : ¬q.playback.length + 2 ≤ q.capacity) :
      CallCase q (.client (.push f)) (.client (.accepted false)) q
  /-- Frames are taken as far as there is room. -/
  | pushedAll {fs : List Frame} :
      CallCase q (.client (.pushAll fs)) (.client (.count (q.takes fs)))
        { q with playback := q.playback ++ (fs.take (q.takes fs)).flatMap Frame.slots }
  /-- The two oldest slots make a frame. -/
  | popped {left right : UInt32} {rest : List UInt32} (held : q.capture = left :: right :: rest) :
      CallCase q (.client .pop) (.client (.popped (some (.ofSlots left right))))
        { q with capture := rest }
  /-- There is no frame to pop, and nothing happens. -/
  | notPopped (held : q.capture.length < 2) :
      CallCase q (.client .pop) (.client (.popped none)) q
  /-- A buffer gets what there is. -/
  | filled {buffer : List UInt32} :
      CallCase q (.fill buffer)
        (.filled
          ⟨q.gives buffer, q.playback.take (q.gives buffer) ++ buffer.drop (q.gives buffer)⟩)
        { q with
          playback := q.playback.drop (q.gives buffer)
          underruns := if q.gives buffer < buffer.length then q.underruns + 1 else q.underruns }
  /-- A buffer is kept as far as there is room. -/
  | consumed {buffer : List UInt32} :
      CallCase q (.consume buffer) .consumed
        { q with
          capture := q.capture ++ buffer.take (2 * q.roomFor buffer)
          dropped := q.dropped + UInt64.ofNat (buffer.length - 2 * q.roomFor buffer) }

/-- **There is nothing else that a call can do.** -/
theorem call_case (q : FrameQueue) (c : Call) : CallCase q c (c.perform q).1 (c.perform q).2 := by
  rcases c with (f | fs | _) | buffer | buffer
  · rw [Call.perform, ClientCall.perform]
    by_cases h : q.HasRoom q.playback
    · rw [push_of_hasRoom h]
      exact .pushed h
    · rw [push_of_not_hasRoom h]
      exact .refused h
  · rw [Call.perform, ClientCall.perform, pushAll_eq]
    exact .pushedAll
  · rw [Call.perform, ClientCall.perform]
    rcases hc : q.capture with _ | ⟨left, _ | ⟨right, rest⟩⟩
    · have held : q.capture.length < 2 := by simp [hc]
      rw [pop_of_length_lt held]
      exact .notPopped held
    · have held : q.capture.length < 2 := by simp [hc]
      rw [pop_of_length_lt held]
      exact .notPopped held
    · rw [pop_of_capture_eq hc]
      exact .popped hc
  · rw [Call.perform, fill_eq]
    exact .filled
  · rw [Call.perform, consume_eq]
    exact .consumed

theorem CallCase.frames_eq (h : CallCase q c r t) : t.frames = q.frames := by cases h <;> rfl

theorem frames_after : (q.after calls).frames = q.frames := by
  induction calls generalizing q with
  | nil => rfl
  | cons c calls ih => rw [after_cons, ih, (call_case q c).frames_eq]

end FrameQueue

end SerialAudio
