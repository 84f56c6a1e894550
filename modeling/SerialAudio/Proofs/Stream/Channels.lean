import SerialAudio.Proofs.Stream.Capture
import SerialAudio.Proofs.Stream.Playback
/-!
# Which channel a buffer begins with

The two rings meet the transfers in different ways. Captured slots are taken in pairs, so the
capture ring holds whole frames whatever the buffers look like. Played slots are handed out one by
one until the buffer is full, and a buffer of odd length that is filled takes half a frame away with
it. From then on every buffer begins with a right slot, until another one of odd length comes.

So the channel of the next slot is a matter of counting. Slots alternate from the first accepted
frame on, left before right, and the number of slots that were handed out says where in that
sequence the ring begins. Buffers of whole frames keep that number even, and that is all that keeps
a left channel on the left.

## Main results

* `length_playback_mod_two` — the ring holds half a frame exactly if half a frame was handed out
* `even_playback_after` — buffers of whole frames leave whole frames
* `channels_after` — both rings along every history, and the first slot of the next buffer
* `playback_split` — one buffer of odd length, and the channels are exchanged
-/

namespace SerialAudio

namespace Frame

/-- The slot of a frame at an even or an odd place. -/
def slotAt (f : Frame) (i : Nat) : UInt32 := Sample.toSlot (if i % 2 = 0 then f.left else f.right)

/-- **Slots alternate, left before right.** -/
theorem getElem?_flatMap_slots (fs : List Frame) (i : Nat) :
    (fs.flatMap slots)[i]? = fs[i / 2]?.map (slotAt · i) := by
  induction fs generalizing i with
  | nil => simp
  | cons f fs ih =>
    rw [List.flatMap_cons, slots]
    rcases i with _ | _ | i
    · rfl
    · rfl
    · have place : (i + 2) / 2 = i / 2 + 1 := Nat.add_div_right i (by decide)
      have channel : ∀ f : Frame, f.slotAt (i + 2) = f.slotAt i := by
        intro f
        rw [slotAt, slotAt, Nat.add_mod_right]
      rw [place, List.getElem?_cons_succ, funext channel, ← ih]
      rfl

end Frame

namespace FrameQueue

variable {q t : FrameQueue} {c : Call} {r : Reply} {calls : List Call} {frames : Nat}

/-! ## Counting slots -/

/-- The frames that a call was told were taken. -/
def takenBy : Call × Reply → List Frame
  | (.client (.push f), .client (.accepted true)) => [f]
  | (.client (.pushAll fs), .client (.count n)) => fs.take n
  | _ => []

theorem acceptedBy_eq (x : Call × Reply) : acceptedBy x = (takenBy x).flatMap Frame.slots := by
  fun_cases takenBy x with
  | case1 f => exact (List.append_nil _).symm
  | case2 fs n => rfl
  | case3 x hpush hpushAll =>
    rw [acceptedBy]
    · rfl
    · exact hpush
    · exact hpushAll

/-- The frames that were taken along a history. -/
def taken (frames : Nat) (calls : List Call) : List Frame :=
  ((empty frames).transcript calls).flatMap takenBy

/-- The number of slots that were handed out along a history. -/
def handedOut (frames : Nat) (calls : List Call) : Nat :=
  (((empty frames).transcript calls).flatMap deliveredBy).length

theorem flatMap_taken : (taken frames calls).flatMap Frame.slots =
    ((empty frames).transcript calls).flatMap deliveredBy ++
      ((empty frames).after calls).playback := by
  rw [taken, List.flatMap_assoc, ← funext acceptedBy_eq]
  exact append_accepted (q := empty frames)

/-- The ring is what was accepted, from the slot on that comes next. -/
theorem playback_eq_drop : ((empty frames).after calls).playback =
    ((taken frames calls).flatMap Frame.slots).drop (handedOut frames calls) := by
  rw [flatMap_taken, handedOut, List.drop_left]

/-- **The ring holds half a frame exactly if half a frame was handed out.** -/
theorem length_playback_mod_two :
    ((empty frames).after calls).playback.length % 2 = handedOut frames calls % 2 := by
  have whole : 2 * (taken frames calls).length =
      handedOut frames calls + ((empty frames).after calls).playback.length := by
    rw [← Frame.length_flatMap_slots, flatMap_taken, List.length_append, handedOut]
  omega

/-- The next slot is one of the oldest frame that is not yet handed out. -/
theorem head?_playback : ((empty frames).after calls).playback.head? =
    (taken frames calls)[handedOut frames calls / 2]?.map (·.slotAt (handedOut frames calls)) := by
  rw [playback_eq_drop, List.head?_drop, Frame.getElem?_flatMap_slots]

/-- A buffer that gets anything begins with the first slot of the ring. -/
theorem head?_fill {buffer : List UInt32} (h : 0 < (q.fill buffer).1.produced) :
    (q.fill buffer).1.buffer.head? = q.playback.head? := by
  rw [fill_eq] at h ⊢
  have inside : 0 < (q.playback.take (q.gives buffer)).length := by
    rw [length_take_gives]
    exact h
  rw [List.head?_eq_getElem?, List.head?_eq_getElem?, List.getElem?_append_left inside,
    List.getElem?_take_of_lt h]

/-! ## Buffers of whole frames -/

theorem CallCase.even_playback (ending : CallCase q c r t)
    (whole : ∀ buffer, c = .fill buffer → buffer.length % 2 = 0)
    (h : q.playback.length % 2 = 0) : t.playback.length % 2 = 0 := by
  cases ending with
  | pushed _ =>
    rw [List.length_append, Frame.length_slots]
    omega
  | pushedAll =>
    rw [List.length_append, Frame.length_flatMap_slots]
    omega
  | @filled buffer =>
    have := whole buffer rfl
    rw [List.length_drop, gives]
    omega
  | refused _ => exact h
  | popped _ => exact h
  | notPopped _ => exact h
  | consumed => exact h

/-- **Buffers of whole frames leave whole frames.** -/
theorem even_playback_after (whole : ∀ buffer, .fill buffer ∈ calls → buffer.length % 2 = 0)
    (h : q.playback.length % 2 = 0) : (q.after calls).playback.length % 2 = 0 := by
  induction calls generalizing q with
  | nil => exact h
  | cons c calls ih =>
    rw [after_cons]
    refine ih (fun buffer hm => whole buffer (List.mem_cons_of_mem _ hm)) ?_
    refine (call_case q c).even_playback (fun buffer hc => whole buffer ?_) h
    rw [hc]
    exact List.mem_cons_self

/-! ## Both rings -/

/-- **Which channel comes next.** Along every history of a queue, the capture ring holds whole
frames, and the playback ring does exactly if an even number of slots was handed out. The next
buffer that gets anything begins with the left slot of the oldest frame then, and with the right one
otherwise. As long as the buffers that are filled hold whole frames, it is the left one. -/
theorem channels_after (frames : Nat) (calls : List Call) :
    let q := (empty frames).after calls
    let out := handedOut frames calls
    q.capture.length % 2 = 0 ∧ q.playback.length % 2 = out % 2 ∧
      (∀ buffer, 0 < (q.fill buffer).1.produced →
        ∃ f, (taken frames calls)[out / 2]? = some f ∧ (q.fill buffer).1.buffer.head? =
          some (Sample.toSlot (if out % 2 = 0 then f.left else f.right))) ∧
      ((∀ buffer, .fill buffer ∈ calls → buffer.length % 2 = 0) → out % 2 = 0) := by
  intro q out
  refine ⟨(paired_after (paired_empty frames)).even, length_playback_mod_two, ?_, ?_⟩
  · intro buffer h
    have next : q.playback.head? = (taken frames calls)[out / 2]?.map (·.slotAt out) :=
      head?_playback
    cases hf : (taken frames calls)[out / 2]? with
    | none =>
      rw [hf] at next
      have drained : q.playback = [] := List.head?_eq_none_iff.mp next
      rw [produced_fill, drained] at h
      exact absurd h (Nat.not_lt.mpr (Nat.min_le_right ..))
    | some f =>
      rw [hf] at next
      exact ⟨f, rfl, (head?_fill h).trans next⟩
  · intro whole
    rw [← length_playback_mod_two]
    exact even_playback_after whole rfl

/-- **A buffer of odd length exchanges the channels.** It takes the left slot of a frame away, and
the next buffer begins with the right one. -/
theorem playback_split :
    let q := (empty 2).after
      [.client (.push ⟨1, -1⟩), .fill [0], .client (.push ⟨2, -2⟩)]
    q.playback.length = 3 ∧
      (q.fill [0, 0]).1.buffer = [Sample.toSlot (-1), Sample.toSlot 2] := by
  decide

end FrameQueue

end SerialAudio
