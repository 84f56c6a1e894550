import SerialAudio.Proofs.Stream.Capture
import SerialAudio.Proofs.Stream.Playback
import SerialAudio.Stream.Loopback
import Mathlib.Algebra.Ring.Nat
/-!
# What goes round comes back

A frame that is pushed, played, captured and popped goes through four conversions and may be cut out
of two buffers. It comes back as it was, but for its samples being moved into the range of the link.

The two halves of the way are proved apart. On the way of the slots nothing is ever lost, because
what the two rings hold together does not change: a buffer moves slots from the end of one to the
end of the other. So as long as they fit into one ring they fit into the other, and room is a matter
of the frames that were pushed and of no buffer. On the way of the samples a slot is the word of a
sample, and reading it back is the inverse of writing it.

`Whole` is what keeps the channels apart. Buffers of whole frames move whole frames, and half a
frame would not only exchange the channels but also be dropped by the capture side.

## Main results

* `loopBack_eq` — one buffer, without the loop inside
* `Whole.loopBackAll` — what several buffers leave
* `popAll_eq` — popping is the inverse of laying frames out
* `popAll_loopBackAll` — the whole way
-/

namespace SerialAudio

namespace Frame

/-- A sample is the reading of its word. -/
@[simp] theorem ofSlots_words (f : Frame) : ofSlots f.left.toUInt32 f.right.toUInt32 = f := by
  simp [ofSlots, Sample.ofSlot]

/-- **A frame goes to the wire as the words of the nearest frame in range.** -/
theorem slots_eq_words_clamp (f : Frame) : f.slots = f.clamp.words := rfl

theorem flatMap_slots_eq (fs : List Frame) :
    fs.flatMap slots = (fs.map clamp).flatMap words := by
  have words_clamp : slots = fun f => f.clamp.words := funext slots_eq_words_clamp
  rw [List.flatMap_map, words_clamp]

end Frame

namespace FrameQueue

variable {q : FrameQueue} {buffer : List UInt32} {buffers : List (List UInt32)} {fs : List Frame}

/-! ## The way of the slots -/

/-- Both rings hold whole frames, and what they hold together would fit into one of them. -/
structure Whole (q : FrameQueue) : Prop where
  /-- Whole frames wait to be played. -/
  playback : q.playback.length % 2 = 0
  /-- Whole frames wait to be popped. -/
  capture : q.capture.length % 2 = 0
  /-- One ring has room for all of them. -/
  fits : q.capture.length + q.playback.length ≤ q.capacity

/-- **A buffer of whole frames moves what it gets from one ring to the other.** -/
theorem loopBack_eq (whole : q.Whole) (even : buffer.length % 2 = 0) :
    q.loopBack buffer =
      { q with
        playback := q.playback.drop buffer.length
        capture := q.capture ++ q.playback.take buffer.length
        underruns := if q.gives buffer < buffer.length then q.underruns + 1 else q.underruns } := by
  obtain ⟨evenPlayback, -, fits⟩ := whole
  have gives : q.gives buffer = min buffer.length q.playback.length := rfl
  have brought : (q.fill buffer).1.buffer.take (q.fill buffer).1.produced =
      q.playback.take (q.gives buffer) := by
    rw [fill_eq]
    exact List.take_left' (length_take_gives buffer)
  -- there is room for every pair, and no slot is left without a partner
  have room : 2 * roomFor (q.fill buffer).2 (q.playback.take (q.gives buffer)) =
      q.gives buffer := by
    have hcap : capacity (q.fill buffer).2 = q.capacity := rfl
    rw [roomFor, length_take_gives, capture_fill, hcap]
    omega
  rw [loopBack]
  dsimp only
  rw [brought, consume_eq, room, length_take_gives, Nat.sub_self, List.take_take, Nat.min_self,
    fill_eq]
  simp only [gives, ← List.take_eq_take_min, ← List.drop_eq_drop_min]
  simp

theorem Whole.loopBack (whole : q.Whole) (even : buffer.length % 2 = 0) :
    (q.loopBack buffer).Whole := by
  rw [loopBack_eq whole even]
  obtain ⟨evenPlayback, evenCapture, fits⟩ := whole
  have hcap : q.capacity = 2 * q.frames := rfl
  constructor <;> simp only [List.length_drop, List.length_append, List.length_take, capacity] <;>
    omega

/-- **What the rings hold together is moved and not changed.** The playback ring is shorter by the
buffers, nothing is dropped, and the capture ring has what the other one had. -/
theorem Whole.loopBackAll (whole : q.Whole) (even : ∀ b ∈ buffers, b.length % 2 = 0) :
    let t := q.loopBackAll buffers
    t.playback = q.playback.drop (buffers.map List.length).sum ∧
      t.capture ++ t.playback = q.capture ++ q.playback ∧ t.dropped = q.dropped := by
  induction buffers generalizing q with
  | nil => simp
  | cons buffer buffers ih =>
    have first := loopBack_eq whole (even buffer List.mem_cons_self)
    obtain ⟨playback, both, dropped⟩ := ih (whole.loopBack (even buffer List.mem_cons_self))
      fun b hb => even b (List.mem_cons_of_mem _ hb)
    rw [loopBackAll_cons]
    refine ⟨?_, ?_, ?_⟩
    · rw [playback, first, List.drop_drop, List.map_cons, List.sum_cons]
    · rw [both, first, List.append_assoc, List.take_append_drop]
    · rw [dropped, first]

/-! ## The way of the samples -/

/-- **Popping is the inverse of laying frames out as words.** -/
theorem popAll_eq (held : q.capture = fs.flatMap Frame.words) :
    q.popAll = (fs, { q with capture := [] }) := by
  induction fs generalizing q with
  | nil =>
    have nothing : q.capture = [] := held
    rw [popAll_of_none (pop_of_length_lt (by simp [nothing])), ← nothing]
  | cons f fs ih =>
    have next : q.capture = f.left.toUInt32 :: f.right.toUInt32 :: fs.flatMap Frame.words := held
    have popped := pop_of_capture_eq next
    rw [Frame.ofSlots_words] at popped
    rw [popAll_of_some popped, ih rfl]

/-! ## The whole way -/

/-- Frames for which there is room are all taken by a queue that nobody called yet. -/
theorem pushAll_empty {frames : Nat} (room : fs.length ≤ frames) :
    (empty frames).pushAll fs =
      (fs.length, { empty frames with playback := fs.flatMap Frame.slots }) := by
  have all : takes (empty frames) fs = fs.length := by
    simp only [takes, capacity, empty, List.length_nil]
    omega
  rw [pushAll_eq, all, List.take_length]
  rfl

/-- **What goes round comes back.** Frames for which a new queue has room are pushed, looped back
through buffers of whole frames that are long enough together, and popped until there is none. They
come back in their order and with their channels in place, with each sample moved to the nearest end
of the range if it was outside. Nothing is left in the rings, and nothing was dropped. -/
theorem popAll_loopBackAll {frames : Nat} (room : fs.length ≤ frames)
    (even : ∀ b ∈ buffers, b.length % 2 = 0)
    (enough : 2 * fs.length ≤ (buffers.map List.length).sum) :
    let pushed := (empty frames).pushAll fs
    let looped := pushed.2.loopBackAll buffers
    pushed.1 = fs.length ∧
      looped.popAll.1 = fs.map (fun f => ⟨Sample.clamp f.left, Sample.clamp f.right⟩) ∧
      (∀ s, (Sample.clamp s).toInt = max (-8388607) (min s.toInt 8388607)) ∧
      looped.dropped = 0 ∧ looped.popAll.2.dropped = 0 ∧
      looped.popAll.2.playback = [] ∧ looped.popAll.2.capture = [] := by
  intro pushed looped
  have hpushed : pushed = _ := pushAll_empty room
  have whole : pushed.2.Whole := by
    rw [hpushed]
    constructor <;> simp only [Frame.length_flatMap_slots, capacity, empty, List.length_nil] <;>
      omega
  obtain ⟨playback, both, dropped⟩ := whole.loopBackAll even
  have played : looped.playback = [] := by
    rw [show looped.playback = _ from playback, hpushed]
    exact List.drop_eq_nil_of_le (by rw [Frame.length_flatMap_slots]; exact enough)
  have captured : looped.capture = (fs.map Frame.clamp).flatMap Frame.words := by
    have all : looped.capture ++ looped.playback = pushed.2.capture ++ pushed.2.playback := both
    rw [played, List.append_nil, hpushed] at all
    exact all.trans (Frame.flatMap_slots_eq fs)
  have lost : looped.dropped = 0 := by
    rw [show looped.dropped = _ from dropped, hpushed]
    rfl
  rw [popAll_eq captured]
  exact ⟨by rw [hpushed], rfl, Sample.toInt_clamp, lost, lost, played, rfl⟩

/-- Two frames, one of them out of range on both sides, through buffers that do not match them. -/
theorem popAll_loopBackAll_clamped :
    let fs : List Frame := [⟨8388608, -8388608⟩, ⟨1, -1⟩]
    let buffers : List (List UInt32) := [[7, 7], [], [7, 7, 7, 7]]
    let looped := ((empty 2).pushAll fs).2.loopBackAll buffers
    fs.length ≤ 2 ∧ (∀ b ∈ buffers, b.length % 2 = 0) ∧
      2 * fs.length ≤ (buffers.map List.length).sum ∧
      looped.popAll.1 = [⟨8388607, -8388607⟩, ⟨1, -1⟩] ∧ looped.dropped = 0 := by
  intro fs buffers looped
  have room : fs.length ≤ 2 := by decide
  have even : ∀ b ∈ buffers, b.length % 2 = 0 := by decide
  have enough : 2 * fs.length ≤ (buffers.map List.length).sum := by decide
  obtain ⟨-, popped, -, dropped, -⟩ := popAll_loopBackAll room even enough
  exact ⟨room, even, enough, popped.trans (by decide), dropped⟩

end FrameQueue

end SerialAudio
