import SerialAudio.Proofs.Engine.Reachable
/-!
# The life of an engine

The phase of an engine is computed and not stored, so nothing forces it to move along the diagram
that one would draw of it. `Moves` is that diagram. It has one constructor for each thing that an
act may do to the phase, with the condition under which it does it, and the conditions of two
constructors for the same act exclude each other: which way the phase goes is never a choice.

## The last direction

Draining ends with one particular delivery, and that one is named before it happens. `LastDraining`
looks at the lanes as they are: this lane is about to stop, and no other lane of the engine runs. A
duplex engine that was cancelled has no such lane until one of its two directions has fallen idle.

## Main results

* `moves_step` — every act moves the phase of a sound engine as the diagram says
* `Moves.phase_of_faulted` — no move leads out of a fault
* `moves_after` — the same along every history of an engine that was built
-/

namespace SerialAudio

namespace Installed

variable {n : Nat} {s t : Installed n} {d e : Direction} {x : Transfer} {a : Act} {o : Outcome}

/-! ## Reading the phase -/

/-- The phase of an engine none of whose directions runs, unless it saw a fault. -/
def restingPhase (s : Installed n) : Phase :=
  if s.engine.codec.isSome then .codecReady else .armed

theorem isActive_iff : s.isActive = true ↔ ∃ d ∈ s.directions, (s.lane d).active = true :=
  List.any_eq_true

theorem phase_eq_faulted_iff : s.phase = .faulted ↔ s.isFaulted = true := by
  constructor
  · intro h
    cases hf : s.isFaulted with
    | true => rfl
    | false =>
      rw [phase, hf, if_neg Bool.false_ne_true] at h
      split at h
      · split at h <;> exact nomatch h
      · split at h <;> exact nomatch h
  · intro hf
    rw [phase, if_pos hf]

theorem phase_of_active (clear : s.isFaulted = false) (active : s.isActive = true) :
    s.phase = if s.engine.cancelRequested then .canceling else .streaming := by
  rw [phase, clear, active, if_neg Bool.false_ne_true, if_pos rfl]

theorem phase_of_idle (clear : s.isFaulted = false) (idle : s.isActive = false) :
    s.phase = s.restingPhase := by
  rw [phase, clear, idle, if_neg Bool.false_ne_true, if_neg Bool.false_ne_true]
  rfl

/-- Four things make the phase. -/
theorem phase_congr (fault : t.isFaulted = s.isFaulted) (active : t.isActive = s.isActive)
    (engine : t.engine = s.engine) : t.phase = s.phase := by
  rw [phase, fault, active, engine, ← phase]

/-- An engine that stops is the only one that is both asked to and still running. -/
theorem phase_eq_canceling (clear : s.isFaulted = false) (active : s.isActive = true)
    (asked : s.engine.cancelRequested = true) : s.phase = .canceling := by
  rw [phase_of_active clear active, if_pos asked]

theorem phase_ne_streaming_of_idle (clear : s.isFaulted = false) (idle : s.isActive = false) :
    s.phase ≠ .streaming := by
  rw [phase_of_idle clear idle, restingPhase]
  split <;> exact nofun

theorem isActive_congr (config : t.engine.config = s.engine.config)
    (lane : ∀ d, (t.lane d).active = (s.lane d).active) : t.isActive = s.isActive := by
  rw [Bool.eq_iff_iff, isActive_iff, isActive_iff, directions, config, ← directions]
  constructor
  · rintro ⟨d, hd, ha⟩
    exact ⟨d, hd, (lane d).symm.trans ha⟩
  · rintro ⟨d, hd, ha⟩
    exact ⟨d, hd, (lane d).trans ha⟩

/-! ## The diagram -/

/-- A direction that is about to stop, while no other direction of the engine runs. -/
structure LastDraining (s : Installed n) (d : Direction) : Prop where
  /-- It still runs. -/
  active : (s.lane d).active = true
  /-- It stops with its next delivery. -/
  cancelling : (s.lane d).cancelling = true
  /-- It is the last one. -/
  others : ∀ e ∈ s.directions, e ≠ d → (s.lane e).active = false

/-- How an act with its outcome may move the phase from one state to the next. -/
inductive Moves (s : Installed n) : Act → Outcome → Installed n → Prop where
  /-- A start goes through. -/
  | started {t : Installed n} (before : s.phase ≠ .faulted) (after : t.phase = .streaming) :
      Moves s .start (.started (.ok ())) t
  /-- A start fails. -/
  | notStarted {t : Installed n} {cause : StartError} (after : t.phase = .faulted) :
      Moves s .start (.started (.error cause)) t
  /-- An engine that streams is asked to stop. -/
  | cancelled {t : Installed n} (before : s.phase = .streaming) (after : t.phase = .canceling) :
      Moves s .cancel .done t
  /-- There is nothing to stop, or it is stopping already. -/
  | notCancelled {t : Installed n} (before : s.phase ≠ .streaming) (after : t.phase = s.phase) :
      Moves s .cancel .done t
  /-- The starts of a direction are refused from now on. -/
  | refused {t : Installed n} {d : Direction} (after : t.phase = s.phase) :
      Moves s (.refuse d) .done t
  /-- The last buffer is delivered. -/
  | drained {t : Installed n} {d : Direction} {buffer : List UInt32} {v : Delivery}
      (before : s.phase = .canceling) (last : s.LastDraining d) (after : t.phase = s.restingPhase) :
      Moves s (.finish d buffer) (.delivered (some v)) t
  /-- Any other buffer is delivered, or it is nobody's turn. -/
  | served {t : Installed n} {d : Direction} {buffer : List UInt32} {v : Option Delivery}
      (before : s.phase = .canceling → ¬s.LastDraining d) (after : t.phase = s.phase) :
      Moves s (.finish d buffer) (.delivered v) t
  /-- A direction that runs breaks down. -/
  | broken {t : Installed n} {d : Direction} {v : Delivery} (before : (s.lane d).active = true)
      (after : t.phase = .faulted) : Moves s (.fail d) (.delivered (some v)) t
  /-- It is nobody's turn. -/
  | notBroken {d : Direction} (before : (s.lane d).active = false) :
      Moves s (.fail d) (.delivered none) s

/-- **There is no way out of a fault.** -/
theorem Moves.phase_of_faulted (h : s.Moves a o t) (hs : s.phase = .faulted) :
    t.phase = .faulted := by
  cases h with
  | started before _ => exact absurd hs before
  | notStarted after => exact after
  | cancelled before _ => exact nomatch hs.symm.trans before
  | notCancelled _ after => exact after.trans hs
  | refused after => exact after.trans hs
  | drained before _ _ => exact nomatch hs.symm.trans before
  | served _ after => exact after.trans hs
  | broken _ after => exact after
  | notBroken _ => exact hs

/-! ## One act -/

theorem moves_start (s : Installed n) : s.Moves .start (.started s.start.1) s.start.2 := by
  rcases hr : s.start.1 with e | ⟨⟩
  · exact .notStarted (phase_eq_faulted_iff.mpr (isFaulted_start_of_error hr))
  · have streams := streams_start hr
    have ending := start_case s
    rw [hr] at ending
    generalize s.start.2 = t at ending streams ⊢
    cases ending with
    | @ok codec bus clear taken accepted =>
      refine .started (fun h => ?_) ?_
      · exact Bool.false_ne_true (clear.symm.trans (phase_eq_faulted_iff.mp h))
      · -- every mode has a direction, and that one runs now
        have hd : ∃ d, d ∈ s.directions := by
          rw [directions]
          cases s.engine.config.mode <;> exact ⟨_, List.mem_cons_self⟩
        obtain ⟨d, hd⟩ := hd
        have active : ((s.withCodec codec bus).arm.withLanes s.directions).run.isActive = true :=
          isActive_iff.mpr ⟨d, hd, (streams.running d hd).1⟩
        exact phase_of_active clear active

theorem isActive_cancel : s.cancel.isActive = s.isActive :=
  isActive_congr rfl fun _ => active_cancel

theorem moves_cancel (s : Installed n) : s.Moves .cancel .done s.cancel := by
  have fault : s.cancel.isFaulted = s.isFaulted := rfl
  cases hf : s.isFaulted with
  | true =>
    have hp := phase_eq_faulted_iff.mpr hf
    refine .notCancelled (fun h => nomatch hp.symm.trans h) ?_
    exact (phase_eq_faulted_iff.mpr (fault.trans hf)).trans hp.symm
  | false =>
    cases ha : s.isActive with
    | false =>
      refine .notCancelled (phase_ne_streaming_of_idle hf ha) ?_
      rw [phase_of_idle hf ha, phase_of_idle (fault.trans hf) (isActive_cancel.trans ha)]
      rfl
    | true =>
      have after := phase_eq_canceling (fault.trans hf) (isActive_cancel.trans ha) rfl
      cases hc : s.engine.cancelRequested with
      | false =>
        refine .cancelled ?_ after
        rw [phase_of_active hf ha, hc]
        rfl
      | true =>
        have before := phase_eq_canceling hf ha hc
        exact .notCancelled (fun h => nomatch before.symm.trans h) (after.trans before.symm)

theorem moves_refuse (s : Installed n) (d : Direction) : s.Moves (.refuse d) .done (s.refuse d) :=
  .refused (phase_congr rfl (isActive_congr rfl fun _ => active_refuse) rfl)

/-- Only the last direction to drain makes a difference to whether anything runs. -/
theorem isActive_complete (hs : s.Sound) (hl : ¬s.LastDraining d) :
    (s.complete d x).2.isActive = s.isActive := by
  cases hc : (s.lane d).cancelling with
  | false =>
    refine isActive_congr rfl fun e => ?_
    rw [lane_complete_of_not_cancelling hs hc]
  | true =>
    have ha := (hs.tidy d).active_of_cancelling hc
    -- somebody else runs, since this lane is not the last
    have hother : ∃ e ∈ s.directions, e ≠ d ∧ (s.lane e).active = true := by
      refine Decidable.byContradiction fun hn => hl ⟨ha, hc, fun e he hed => ?_⟩
      exact eq_false_of_ne_true fun hae => hn ⟨e, he, hed, hae⟩
    obtain ⟨e, he, hed, hae⟩ := hother
    rw [isActive_iff.mpr ⟨e, he, hae⟩, isActive_iff]
    refine ⟨e, he, ?_⟩
    rw [lane_complete, if_neg hed]
    exact hae

theorem isActive_complete_of_last (hs : s.Sound) (hl : s.LastDraining d) :
    (s.complete d x).2.isActive = false := by
  refine eq_false_of_ne_true fun h => ?_
  obtain ⟨e, he, ha⟩ := isActive_iff.mp h
  by_cases hed : e = d
  · subst hed
    rw [lane_complete_of_cancelling hs hl.cancelling] at ha
    exact nomatch ha
  · rw [lane_complete, if_neg hed, hl.others e he hed] at ha
    exact nomatch ha

theorem moves_finish (hs : s.Sound) (d : Direction) (buffer : List UInt32) :
    s.Moves (.finish d buffer) (.delivered (s.complete d (.finished buffer)).1)
      (s.complete d (.finished buffer)).2 := by
  have fault := isFaulted_complete_finished hs d buffer
  by_cases hl : s.LastDraining d
  · have ha : s.isActive = true := isActive_iff.mpr ⟨d, hs.used hl.active, hl.active⟩
    cases hf : s.isFaulted with
    | true =>
      -- a faulted engine drains too, but nobody can see it
      have hp := phase_eq_faulted_iff.mpr hf
      refine .served (fun h => nomatch hp.symm.trans h) ?_
      exact (phase_eq_faulted_iff.mpr (fault.trans hf)).trans hp.symm
    | false =>
      have before := phase_eq_canceling hf ha ((hs.agrees hf hl.active).symm.trans hl.cancelling)
      have after := phase_of_idle (fault.trans hf)
        (isActive_complete_of_last hs hl (x := .finished buffer))
      rw [complete_of_active hs hl.active] at after ⊢
      exact .drained before hl after
  · exact .served (fun _ => hl) (phase_congr fault (isActive_complete hs hl) rfl)

theorem moves_fail (hs : s.Sound) (d : Direction) :
    s.Moves (.fail d) (.delivered (s.complete d (.failed [])).1) (s.complete d (.failed [])).2 := by
  cases ha : (s.lane d).active with
  | false =>
    rw [complete_of_idle ha]
    exact .notBroken ha
  | true =>
    have fault := isFaulted_complete_failed hs d []
    rw [ha, Bool.or_true] at fault
    have after := phase_eq_faulted_iff.mpr fault
    rw [complete_of_active hs ha] at after ⊢
    exact .broken ha after

/-- **Every act moves the phase as the diagram says.** -/
theorem moves_step (hs : s.Sound) (a : Act) : s.Moves a (s.step a).1 (s.step a).2 := by
  cases a with
  | start => exact moves_start s
  | cancel => exact moves_cancel s
  | refuse d => exact moves_refuse s d
  | finish d buffer => exact moves_finish hs d buffer
  | fail d => exact moves_fail hs d

/-! ## Histories -/

/-- A fault is for life. -/
theorem phase_after_of_faulted {acts : List Act} (hs : s.Sound) (hf : s.phase = .faulted) :
    (s.after acts).phase = .faulted := by
  induction acts generalizing s with
  | nil => exact hf
  | cons a acts ih =>
    rw [after_cons]
    exact ih (sound_step hs) ((moves_step hs a).phase_of_faulted hf)

theorem Built.phase (h : s.Built) : s.phase = .armed := by
  have idle : s.isActive = false := by
    refine eq_false_of_ne_true fun ha => ?_
    obtain ⟨d, -, ha⟩ := isActive_iff.mp ha
    exact Bool.false_ne_true ((h.lane d).active.symm.trans ha)
  rw [phase_of_idle h.clear idle, restingPhase, h.codec]
  rfl

/-- **The phase moves along the diagram and nowhere else.** An engine begins armed. Whatever
happened to it since, the next act moves it as the diagram says, and once it saw a fault it stays
there through whatever happens from then on. -/
theorem moves_after (hs : s.Built) (acts : List Act) :
    s.phase = .armed ∧
      (∀ a, (s.after acts).Moves a ((s.after acts).step a).1 ((s.after acts).step a).2) ∧
      ((s.after acts).phase = .faulted → ∀ more, (s.after (acts ++ more)).phase = .faulted) := by
  have sound : (s.after acts).Sound := sound_after hs.sound
  refine ⟨hs.phase, ?_, ?_⟩
  · intro a
    exact moves_step sound a
  · intro hf more
    rw [after_append]
    exact phase_after_of_faulted sound hf

/-- A duplex engine that was cancelled and still waits for its second direction. -/
def halfDrained : Installed 1 :=
  (alone .duplex .probe none).after [.start, .cancel, .finish .transmit []]

/-- That direction is the last to drain, and the engine rests then. -/
theorem moves_after_drained :
    (alone .duplex .probe none).Built ∧ halfDrained.phase = .canceling ∧
      halfDrained.Moves (.finish .receive []) (halfDrained.step (.finish .receive [])).1
        (halfDrained.step (.finish .receive [])).2 ∧
      (halfDrained.step (.finish .receive [])).2.phase = .armed := by
  have built : (alone .duplex .probe none).Built := built_alone
  have moves := (moves_after built [.start, .cancel, .finish .transmit []]).2.1
  exact ⟨built, rfl, moves (.finish .receive []), rfl⟩

end Installed

end SerialAudio
