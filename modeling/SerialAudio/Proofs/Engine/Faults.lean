import SerialAudio.Proofs.Engine.Reachable
/-!
# What a fault is, and what becomes of it

The latch is tripped in three places that do not know of each other: where the codec fails, where a
lane is refused, and where a transfer breaks down. From outside the first two show as the error of a
start and the third as a delivery that somebody got from a transfer that failed. `Reports` lists
these outcomes, and nothing else is needed to know whether an engine saw a fault.

## What is no fault

A transfer that ends in good order never trips the latch, whatever it has to say about its buffer: a
buffer that could only be filled in part, frames that were lost and a capture that nobody took are
all matters of the stream. Nor does a transfer that breaks down while its lane is idle, since nobody
is told. And asking for the codec at places where there may be none is no fault when there is none.

## Main results

* `isFaulted_step_iff` — an act faults an engine exactly if its outcome reports it
* `start_of_isFaulted` — a start after a fault does nothing at all
* `isFaulted_after_iff` — both along every history of an engine that was built
-/

namespace SerialAudio

/-- The outcomes that a fault shows by. -/
inductive Reports : Act → Outcome → Prop where
  /-- The codec failed. -/
  | codec {family : Codec.Family} {address : UInt8} :
      Reports .start (.started (.error (.codec family address)))
  /-- A lane was refused. -/
  | lane {d : Direction} : Reports .start (.started (.error (.dma d)))
  /-- A transfer broke down that was somebody's. -/
  | transfer {d : Direction} {v : Delivery} : Reports (.fail d) (.delivered (some v))

namespace Installed

variable {n : Nat} {s : Installed n} {d : Direction} {a : Act} {acts more : List Act}

/-! ## One act -/

/-- **A start after a fault does nothing at all.** -/
theorem start_of_isFaulted (hf : s.isFaulted = true) : s.start = (.error .faulted, s) :=
  if_pos hf

theorem isFaulted_start_iff :
    s.start.2.isFaulted = true ↔ s.isFaulted = true ∨ Reports .start (.started s.start.1) := by
  have ending := start_case s
  generalize s.start.1 = r, s.start.2 = t at ending ⊢
  cases ending with
  | faulted seen => exact ⟨.inl, fun _ => seen⟩
  | codec _ _ => exact ⟨fun _ => .inr .codec, fun _ => isFaulted_trip⟩
  | lane _ _ _ => exact ⟨fun _ => .inr .lane, fun _ => isFaulted_trip⟩
  | ok clear _ _ =>
    constructor
    · exact .inl
    · rintro (hf | hr)
      · exact hf
      · exact nomatch hr

theorem isFaulted_fail_iff (hs : s.Sound) :
    (s.complete d (.failed [])).2.isFaulted = true ↔
      s.isFaulted = true ∨ Reports (.fail d) (.delivered (s.complete d (.failed [])).1) := by
  rw [isFaulted_complete_failed hs d [], Bool.or_eq_true]
  refine or_congr Iff.rfl ?_
  constructor
  · intro ha
    rw [complete_of_active hs ha]
    exact .transfer
  · intro hr
    refine (Bool.not_eq_false _).mp fun ha => ?_
    rw [complete_of_idle ha] at hr
    exact nomatch hr

/-- **An act faults an engine exactly if its outcome reports it.** -/
theorem isFaulted_step_iff (hs : s.Sound) :
    (s.step a).2.isFaulted = true ↔ s.isFaulted = true ∨ Reports a (s.step a).1 := by
  cases a with
  | start => exact isFaulted_start_iff
  | cancel =>
    show s.isFaulted = true ↔ _
    exact ⟨.inl, fun h => h.resolve_right nofun⟩
  | refuse d =>
    show s.isFaulted = true ↔ _
    exact ⟨.inl, fun h => h.resolve_right nofun⟩
  | finish d buffer =>
    have fault := isFaulted_complete_finished hs d buffer
    constructor
    · intro hf
      exact .inl (fault.symm.trans hf)
    · rintro (hf | hr)
      · exact fault.trans hf
      · exact nomatch hr
  | fail d => exact isFaulted_fail_iff hs

/-! ## Histories -/

/-- Whether some act of a history reported a fault. -/
def Reported (s : Installed n) (acts : List Act) : Prop :=
  ∃ x ∈ acts.zip (s.outcomes acts), Reports x.1 x.2

theorem not_reported_nil : ¬s.Reported [] := by
  rintro ⟨x, hx, -⟩
  exact nomatch hx

/-- Nothing is reported but starts that fail and transfers that break down. -/
theorem not_reported_of_forall (h : ∀ a ∈ acts, a ≠ .start ∧ ∀ d, a ≠ .fail d) :
    ¬s.Reported acts := by
  rintro ⟨⟨a, o⟩, hx, hr⟩
  obtain ⟨notStart, notFail⟩ := h a (List.of_mem_zip hx).1
  cases hr with
  | codec => exact notStart rfl
  | lane => exact notStart rfl
  | transfer => exact notFail _ rfl

theorem reported_cons :
    s.Reported (a :: acts) ↔ Reports a (s.step a).1 ∨ (s.step a).2.Reported acts := by
  rw [Reported, outcomes_cons, List.zip_cons_cons]
  constructor
  · rintro ⟨x, hx, hr⟩
    rcases List.mem_cons.mp hx with rfl | hx
    · exact .inl hr
    · exact .inr ⟨x, hx, hr⟩
  · rintro (hr | ⟨x, hx, hr⟩)
    · exact ⟨_, List.mem_cons_self, hr⟩
    · exact ⟨x, List.mem_cons_of_mem _ hx, hr⟩

theorem isFaulted_after_iff_reported (hs : s.Sound) :
    (s.after acts).isFaulted = true ↔ s.isFaulted = true ∨ s.Reported acts := by
  induction acts generalizing s with
  | nil => exact ⟨.inl, fun h => h.resolve_right not_reported_nil⟩
  | cons a acts ih =>
    rw [after_cons, ih (sound_step hs), isFaulted_step_iff hs, reported_cons, or_assoc]

/-- **Faults are reported, and they stay.** An engine that was built saw a fault exactly if some
outcome reported one. From then on, whatever else happens, a start answers that the engine is
faulted and leaves the engine and everything that it works on as they are. -/
theorem isFaulted_after_iff (hs : s.Built) (acts : List Act) :
    ((s.after acts).isFaulted = true ↔ s.Reported acts) ∧
      ((s.after acts).isFaulted = true → ∀ more,
        (s.after (acts ++ more)).start = (.error .faulted, s.after (acts ++ more))) := by
  constructor
  · rw [isFaulted_after_iff_reported hs.sound, hs.clear]
    exact or_iff_right Bool.false_ne_true
  · intro hf more
    refine start_of_isFaulted ?_
    rw [after_append]
    exact (isFaulted_after_iff_reported (sound_after hs.sound)).mpr (.inl hf)

/-- An engine whose codec is missing from where it has to be. -/
def unanswered : Installed 1 :=
  alone .playback (.fixed 0x4C) (some (FaultPlan.bus { absent := [0x4C] }))

/-- A transfer that breaks down on an idle lane is no fault, but a codec that is missing is one. -/
theorem isFaulted_after_codec :
    unanswered.Built ∧ (unanswered.after [.fail .transmit]).isFaulted = false ∧
      unanswered.Reported [.fail .transmit, .start] ∧
      ∀ more, (unanswered.after ([.fail .transmit, .start] ++ more)).start =
        (.error .faulted, unanswered.after ([.fail .transmit, .start] ++ more)) := by
  have built : unanswered.Built := built_alone
  have faulted := isFaulted_after_iff built [.fail .transmit, .start]
  exact ⟨built, rfl, faulted.1.mp rfl, faulted.2 rfl⟩

end Installed

end SerialAudio
