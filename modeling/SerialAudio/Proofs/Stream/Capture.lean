import SerialAudio.Proofs.Stream.Calls
/-!
# The capture ring keeps whole frames

Slots are captured in buffers of any length and popped two at a time, so it takes an argument that
the first slot of a popped frame was ever the first of a pair. The ring is what makes it true: it is
extended by whole pairs only, so it holds an even number of slots, and a pair that was cut in half
by the end of a buffer or by the end of the ring never gets in. `Paired` is that invariant.

## The account

A slot that was brought is in exactly one of three places: in a frame that was popped, in the ring,
or lost. The last of them is only a counter, and one that wraps around, so the account is closed
over the number of lost slots and not over the counter.

## Main results

* `paired_after` — the ring never holds half a frame
* `append_kept` — what is kept is popped in order, left before right
* `exists_lost` — every slot that is not kept is counted
* `capture_after` — the capture side along every history, and each call after it
-/

namespace SerialAudio

/-- The two samples of a frame as the words that they are, unlike the slots that would carry them on
the wire. -/
def Frame.words (f : Frame) : List UInt32 := [f.left.toUInt32, f.right.toUInt32]

@[simp] theorem Frame.words_ofSlots (left right : UInt32) :
    (ofSlots left right).words = [left, right] := by
  simp [words, ofSlots, Sample.ofSlot]

theorem Frame.length_flatMap_words (fs : List Frame) :
    (fs.flatMap words).length = 2 * fs.length := by
  induction fs with
  | nil => rfl
  | cons f fs ih =>
    rw [List.flatMap_cons, List.length_append, ih, List.length_cons, words, List.length_cons,
      List.length_singleton]
    omega

namespace FrameQueue

variable {q t : FrameQueue} {c : Call} {r : Reply} {calls : List Call}

/-! ## Whole frames -/

/-- The capture ring holds whole frames and no more than there is room for. -/
structure Paired (q : FrameQueue) : Prop where
  /-- The ring holds whole frames. -/
  even : q.capture.length % 2 = 0
  /-- The ring does not outgrow its capacity. -/
  le : q.capture.length ≤ q.capacity

theorem paired_empty (frames : Nat) : (empty frames).Paired := ⟨rfl, Nat.zero_le _⟩

theorem length_keptBy (buffer : List UInt32) :
    (buffer.take (2 * q.roomFor buffer)).length = 2 * q.roomFor buffer := by
  refine List.length_take_of_le ?_
  rw [roomFor]
  omega

theorem CallCase.paired (ending : CallCase q c r t) (h : q.Paired) : t.Paired := by
  obtain ⟨even, le⟩ := h
  cases ending with
  | @popped left right rest held =>
    rw [held, List.length_cons, List.length_cons] at even le
    have hrest : rest.length % 2 = 0 := by omega
    exact ⟨hrest, Nat.le_of_succ_le (Nat.le_of_succ_le le)⟩
  | @consumed buffer =>
    have hlength : (q.capture ++ buffer.take (2 * q.roomFor buffer)).length =
        q.capture.length + 2 * q.roomFor buffer := by
      rw [List.length_append, length_keptBy]
    have hroom : q.roomFor buffer ≤ (q.capacity - q.capture.length) / 2 := Nat.min_le_right ..
    constructor
    · show (q.capture ++ _).length % 2 = 0
      rw [hlength]
      omega
    · show (q.capture ++ _).length ≤ q.capacity
      rw [hlength]
      omega
  | pushed _ => exact ⟨even, le⟩
  | refused _ => exact ⟨even, le⟩
  | pushedAll => exact ⟨even, le⟩
  | notPopped _ => exact ⟨even, le⟩
  | filled => exact ⟨even, le⟩

/-- **The ring never holds half a frame.** -/
theorem paired_after (h : q.Paired) : (q.after calls).Paired := by
  induction calls generalizing q with
  | nil => exact h
  | cons c calls ih =>
    rw [after_cons]
    exact ih ((call_case q c).paired h)

/-- Of an even number of slots there are two if there is any. -/
theorem Paired.pop_eq_none_iff (h : q.Paired) : q.pop.1 = none ↔ q.capture = [] := by
  rcases hc : q.capture with _ | ⟨left, _ | ⟨right, rest⟩⟩
  · have hp : q.pop = (none, q) := pop_of_length_lt (by simp [hc])
    simp [hp]
  · have even := h.even
    simp [hc] at even
  · simp [pop_of_capture_eq hc]

/-! ## Order -/

/-- Calls that bring nothing have nothing kept. -/
theorem keptBy_eq_nil (h : broughtBy c = []) : q.keptBy c = [] := by
  rw [keptBy, h, List.take_nil]

theorem CallCase.append_keptBy (h : CallCase q c r t) :
    q.capture ++ q.keptBy c = (poppedBy (c, r)).toList.flatMap Frame.words ++ t.capture := by
  cases h with
  | popped held =>
    rw [keptBy_eq_nil rfl, held]
    simp [poppedBy]
  | consumed => rfl
  | _ =>
    rw [keptBy_eq_nil rfl]
    exact List.append_nil _

/-- **What is kept is popped in order, and the rest is still there.** -/
theorem append_kept :
    q.capture ++ q.kept calls =
      ((q.transcript calls).filterMap poppedBy).flatMap Frame.words ++
        (q.after calls).capture := by
  induction calls generalizing q with
  | nil => simp [kept]
  | cons c calls ih =>
    have hpopped : (q.transcript (c :: calls)).filterMap poppedBy =
        (poppedBy (c, (c.perform q).1)).toList ++
          ((c.perform q).2.transcript calls).filterMap poppedBy := by
      rw [transcript_cons]
      cases h : poppedBy (c, (c.perform q).1) <;> simp [h]
    rw [kept, hpopped, List.flatMap_append, after_cons, List.append_assoc, ← ih,
      ← List.append_assoc, (call_case q c).append_keptBy, List.append_assoc]

/-! ## The account -/

theorem CallCase.exists_lostBy (h : CallCase q c r t) :
    ∃ lost, t.dropped = q.dropped + UInt64.ofNat lost ∧
      (broughtBy c).length = (q.keptBy c).length + lost := by
  cases h with
  | @consumed buffer =>
    refine ⟨buffer.length - 2 * q.roomFor buffer, rfl, ?_⟩
    have hroom : q.roomFor buffer ≤ buffer.length / 2 := Nat.min_le_left ..
    rw [keptBy, broughtBy, length_keptBy]
    omega
  | _ =>
    refine ⟨0, (UInt64.add_zero _).symm, ?_⟩
    rw [keptBy_eq_nil rfl]
    rfl

/-- **Every slot that is not kept is counted.** -/
theorem exists_lost (q : FrameQueue) (calls : List Call) :
    ∃ lost, (q.after calls).dropped = q.dropped + UInt64.ofNat lost ∧
      (calls.flatMap broughtBy).length = (q.kept calls).length + lost := by
  induction calls generalizing q with
  | nil => exact ⟨0, (UInt64.add_zero _).symm, rfl⟩
  | cons c calls ih =>
    obtain ⟨first, hdropped, hbrought⟩ := (call_case q c).exists_lostBy
    obtain ⟨others, hdropped', hbrought'⟩ := ih (c.perform q).2
    refine ⟨first + others, ?_, ?_⟩
    · rw [after_cons, hdropped', hdropped, UInt64.ofNat_add, UInt64.add_assoc]
    · rw [List.flatMap_cons, List.length_append, hbrought, hbrought', kept, List.length_append]
      omega

/-- **The capture side keeps whole frames and accounts for every slot.** Along every history of a
queue, the slots that were kept are those of the frames that were popped, left before right and bit
for bit, followed by those in the ring; the ring holds whole frames and does not outgrow its
capacity; and what was brought was popped, is still there or was lost and counted. After it, a frame
is popped unless the ring is empty, and of a buffer as many pairs are kept as there are and as there
is room for. -/
theorem capture_after (frames : Nat) (calls : List Call) :
    let q := (empty frames).after calls
    let popped := ((empty frames).transcript calls).filterMap poppedBy
    (empty frames).kept calls = popped.flatMap Frame.words ++ q.capture ∧
      q.capture.length % 2 = 0 ∧ q.capture.length ≤ 2 * frames ∧
      (∃ lost, q.dropped = UInt64.ofNat lost ∧
        (calls.flatMap broughtBy).length = 2 * popped.length + q.capture.length + lost) ∧
      (q.pop.1 = none ↔ q.capture = []) ∧
      ∀ buffer, let n := min (buffer.length / 2) ((2 * frames - q.capture.length) / 2)
        q.consume buffer = { q with
          capture := q.capture ++ buffer.take (2 * n)
          dropped := q.dropped + UInt64.ofNat (buffer.length - 2 * n) } := by
  intro q popped
  have hcap : q.capacity = 2 * frames := congrArg (2 * ·) frames_after
  have paired : q.Paired := paired_after (paired_empty frames)
  have order : (empty frames).kept calls = popped.flatMap Frame.words ++ q.capture :=
    append_kept (q := empty frames)
  refine ⟨order, paired.even, hcap ▸ paired.le, ?_, paired.pop_eq_none_iff, ?_⟩
  · obtain ⟨lost, hdropped, hbrought⟩ := exists_lost (empty frames) calls
    refine ⟨lost, hdropped.trans (UInt64.zero_add _), ?_⟩
    rw [hbrought, order, List.length_append, Frame.length_flatMap_words]
  · intro buffer
    rw [← hcap]
    exact consume_eq buffer

end FrameQueue

end SerialAudio
