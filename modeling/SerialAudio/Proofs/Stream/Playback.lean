import SerialAudio.Proofs.Stream.Calls
/-!
# The playback ring loses nothing

Frames go in at one end of the playback ring and slots come out at the other. The law has one side
for each end: what was accepted is what was delivered, followed by what is still there. Both sides
are read off the answers alone, so it speaks of the queue that a program and a transfer see, and
only its last part of the ring.

It is proved from any queue and not from an empty one. A queue that already holds slots delivers
those first, and with them on the left the law of a call and the law of a history are the same.

## Main results

* `append_accepted` — nothing is lost, invented or reordered
* `underruns_after_eq` — the shortfalls are counted
* `playback_after` — the playback side along every history, and each call after it
-/

namespace SerialAudio

/-! ## Samples -/

/-- A sample is moved to the nearest end of the range and no further. -/
theorem Sample.toInt_clamp (s : Int32) :
    (clamp s).toInt = max (-8388607) (min s.toInt 8388607) := by
  have hl : least.toInt = -8388607 := rfl
  have hg : greatest.toInt = 8388607 := rfl
  rw [clamp]
  split
  · have h := Int32.lt_iff_toInt_lt.mp ‹_›
    omega
  · have hs := mt Int32.lt_iff_toInt_lt.mpr ‹_›
    split
    · have h := Int32.lt_iff_toInt_lt.mp ‹_›
      omega
    · have h := mt Int32.lt_iff_toInt_lt.mpr ‹_›
      omega

/-- The slots of a frame, read as signed numbers. -/
theorem Frame.toInt_slots (f : Frame) :
    f.slots.map (fun slot => slot.toInt32.toInt) =
      [max (-8388607) (min f.left.toInt 8388607), max (-8388607) (min f.right.toInt 8388607)] := by
  have h : ∀ s, (Sample.toSlot s).toInt32.toInt = max (-8388607) (min s.toInt 8388607) := by
    intro s
    rw [← Sample.toInt_clamp, ← Sample.ofSlot_toSlot]
    rfl
  rw [slots, List.map_cons, List.map_cons, List.map_nil, h, h]

namespace FrameQueue

variable {q t : FrameQueue} {c : Call} {r : Reply} {calls : List Call}

/-! ## Both ends of the ring -/

/-- One call moves slots into the ring, or out of it. -/
theorem CallCase.append_acceptedBy (h : CallCase q c r t) :
    q.playback ++ acceptedBy (c, r) = deliveredBy (c, r) ++ t.playback := by
  cases h with
  | pushed _ => rfl
  | refused _ => exact List.append_nil _
  | pushedAll => rfl
  | popped _ => exact List.append_nil _
  | notPopped _ => exact List.append_nil _
  | @filled buffer =>
    rw [deliveredBy, List.take_left' (length_take_gives buffer), List.take_append_drop]
    exact List.append_nil _
  | consumed => exact List.append_nil _

/-- **Nothing is lost, invented or reordered.** -/
theorem append_accepted :
    q.playback ++ (q.transcript calls).flatMap acceptedBy =
      (q.transcript calls).flatMap deliveredBy ++ (q.after calls).playback := by
  induction calls generalizing q with
  | nil => simp
  | cons c calls ih =>
    rw [transcript_cons, List.flatMap_cons, List.flatMap_cons, after_cons]
    calc q.playback ++ (acceptedBy _ ++ ((c.perform q).2.transcript calls).flatMap acceptedBy)
        = deliveredBy _ ++ ((c.perform q).2.playback ++
            ((c.perform q).2.transcript calls).flatMap acceptedBy) := by
          rw [← List.append_assoc, (call_case q c).append_acceptedBy, List.append_assoc]
      _ = deliveredBy _ ++ (((c.perform q).2.transcript calls).flatMap deliveredBy ++
            ((c.perform q).2.after calls).playback) := by rw [ih]
      _ = _ := (List.append_assoc ..).symm

/-! ## Room and shortfalls -/

theorem CallCase.length_playback_le (ending : CallCase q c r t)
    (h : q.playback.length ≤ q.capacity) : t.playback.length ≤ q.capacity := by
  cases ending with
  | pushed room =>
    rw [List.length_append, Frame.length_slots]
    exact room
  | @pushedAll fs =>
    rw [List.length_append, Frame.length_flatMap_slots, List.length_take, takes]
    omega
  | filled =>
    rw [List.length_drop]
    omega
  | refused _ => exact h
  | popped _ => exact h
  | notPopped _ => exact h
  | consumed => exact h

theorem length_playback_after (h : q.playback.length ≤ q.capacity) :
    (q.after calls).playback.length ≤ q.capacity := by
  induction calls generalizing q with
  | nil => exact h
  | cons c calls ih =>
    have ending := call_case q c
    have hcap : (c.perform q).2.capacity = q.capacity := congrArg (2 * ·) ending.frames_eq
    rw [after_cons, ← hcap]
    exact ih (hcap.symm ▸ ending.length_playback_le h)

theorem CallCase.underruns_eq (h : CallCase q c r t) :
    t.underruns = q.underruns + UInt64.ofNat (if fellShort (c, r) then 1 else 0) := by
  cases h with
  | @filled buffer =>
    by_cases h : q.gives buffer < buffer.length
    · simp [fellShort, h]
    · simp [fellShort, h]
  | _ => exact (UInt64.add_zero _).symm

/-- **The counter goes up with each shortfall and with nothing else.** -/
theorem underruns_after_eq : (q.after calls).underruns =
    q.underruns + UInt64.ofNat ((q.transcript calls).countP fellShort) := by
  induction calls generalizing q with
  | nil => simp
  | cons c calls ih =>
    rw [after_cons, ih, (call_case q c).underruns_eq, transcript_cons, List.countP_cons,
      UInt64.add_assoc, ← UInt64.ofNat_add, Nat.add_comm]

/-! ## Playback -/

/-- **The playback side is a bounded queue that loses nothing.** Along every history of a queue, the
slots that were accepted are those that were delivered followed by those in the ring, the ring does
not outgrow its capacity, and the shortfalls are counted. After it, a frame is taken if there is
room for both of its slots, a list of frames as far as there is room, and a buffer gets what there
is; none of them touches the capture side. -/
theorem playback_after (frames : Nat) (calls : List Call) :
    let q := (empty frames).after calls
    let seen := (empty frames).transcript calls
    seen.flatMap acceptedBy = seen.flatMap deliveredBy ++ q.playback ∧
      q.playback.length ≤ 2 * frames ∧
      q.underruns = UInt64.ofNat (seen.countP fellShort) ∧
      (∀ f : Frame, f.slots.map (fun slot => slot.toInt32.toInt) =
        [max (-8388607) (min f.left.toInt 8388607),
          max (-8388607) (min f.right.toInt 8388607)]) ∧
      (∀ f, q.push f = if q.playback.length + 2 ≤ 2 * frames
        then (true, { q with playback := q.playback ++ f.slots }) else (false, q)) ∧
      (∀ fs, let n := min fs.length ((2 * frames - q.playback.length) / 2)
        q.pushAll fs = (n, { q with playback := q.playback ++ (fs.take n).flatMap Frame.slots })) ∧
      ∀ buffer, let n := min buffer.length q.playback.length
        q.fill buffer = (⟨n, q.playback.take n ++ buffer.drop n⟩,
          { q with
            playback := q.playback.drop n
            underruns := if n < buffer.length then q.underruns + 1 else q.underruns }) := by
  intro q seen
  have hcap : q.capacity = 2 * frames := congrArg (2 * ·) frames_after
  refine ⟨append_accepted (q := empty frames), length_playback_after (Nat.zero_le _), ?_,
    Frame.toInt_slots, ?_, ?_, fill_eq⟩
  · exact underruns_after_eq.trans (UInt64.zero_add _)
  · intro f
    rw [← hcap]
    rfl
  · intro fs
    rw [← hcap]
    exact pushAll_eq fs

end FrameQueue

end SerialAudio
