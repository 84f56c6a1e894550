import SerialAudio.Proofs.Engine.Faults
import SerialAudio.Proofs.Engine.Lifecycle
/-!
# How a cancel drains

A cancel stops nothing by itself. It asks each lane that runs to stop with its next delivery, and
then it is up to the transfers: whichever ends next in a direction is the last one there, whether it
ends well or breaks down. The lanes do not wait for each other, so the two last deliveries of a
duplex engine come in either order, and there is nothing to be gained from asking again.

## Where it begins

Nothing is said about how the engine came to be cancelled. A start that was refused its second lane
leaves the first one running, in an engine that saw a fault; a restart may have taken one lane back
and left the other to stop. A cancel makes all of these alike: afterwards every lane that runs is
about to stop, which is what `Draining` says, and only a start can end that.

The endpoint may have seen a fault before the engine was built, since a fault has no part in who
drains. It decides the phase and nothing else.

## Main results

* `draining_cancel`, `draining_step` — an engine that was cancelled drains until it is started
* `active_after` — a direction of it runs until its first turn
* `drained_after` — which turns are somebody's after a cancel, and when the engine is at rest
-/

namespace SerialAudio

/-- The direction in which a transfer ends with an act. -/
def Act.turn? : Act → Option Direction
  | .start => none
  | .cancel => none
  | .refuse _ => none
  | .finish d _ => some d
  | .fail d => some d

namespace Installed

variable {n : Nat} {s : Installed n} {d e : Direction} {x : Transfer} {a : Act} {acts : List Act}

/-- Every direction that runs stops with its next delivery. -/
structure Draining (s : Installed n) : Prop extends s.Sound where
  /-- It was asked to. -/
  stopping : ∀ {d}, (s.lane d).active = true → (s.lane d).cancelling = true

/-! ## One act -/

theorem draining_cancel (hs : s.Sound) : s.cancel.Draining where
  toSound := sound_cancel hs
  stopping := by
    intro d ha
    rw [active_cancel] at ha
    exact cancelling_cancel hs ha

theorem Draining.refuse (h : s.Draining) : (s.refuse d).Draining where
  toSound := sound_refuse h.toSound
  stopping := by
    intro e ha
    rw [active_refuse] at ha
    rw [cancelling_refuse]
    exact h.stopping ha

theorem Draining.complete (h : s.Draining) : (s.complete d x).2.Draining where
  toSound := sound_complete h.toSound
  stopping := by
    intro e ha
    rcases lane_complete_or h.toSound d x e with ht | ht <;> rw [ht] at ha ⊢
    · exact h.stopping ha
    · cases ha

/-- **Only a start keeps an engine from draining.** -/
theorem draining_step (h : s.Draining) (ne : a ≠ .start) : (s.step a).2.Draining := by
  cases a with
  | start => exact absurd rfl ne
  | cancel => exact draining_cancel h.toSound
  | refuse d => exact h.refuse
  | finish d buffer => exact h.complete
  | fail d => exact h.complete

/-- The first turn of a direction is its last. -/
theorem Draining.active_complete (h : s.Draining) :
    ((s.complete d x).2.lane e).active = true ↔ (s.lane e).active = true ∧ d ≠ e := by
  by_cases hde : d = e
  · subst hde
    refine ⟨fun after => ?_, fun both => absurd rfl both.2⟩
    cases ha : (s.lane d).active with
    | false =>
      rw [complete_of_idle ha, ha] at after
      cases after
    | true =>
      rw [lane_complete_of_cancelling h.toSound (h.stopping ha)] at after
      cases after
  · rw [lane_complete, if_neg (Ne.symm hde), and_iff_left hde]

theorem Draining.active_step (h : s.Draining) (ne : a ≠ .start) :
    ((s.step a).2.lane d).active = true ↔ (s.lane d).active = true ∧ a.turn? ≠ some d := by
  have turn : ∀ e, (some e ≠ some d) ↔ e ≠ d := fun e => not_congr (Option.some_inj)
  cases a with
  | start => exact absurd rfl ne
  | cancel =>
    show (s.cancel.lane d).active = true ↔ _
    rw [active_cancel, and_iff_left nofun]
  | refuse e =>
    show ((s.refuse e).lane d).active = true ↔ _
    rw [active_refuse, and_iff_left nofun]
  | finish e buffer => exact h.active_complete.trans (and_congr_right' (turn e).symm)
  | fail e => exact h.active_complete.trans (and_congr_right' (turn e).symm)

/-- A turn is somebody's exactly if the direction runs. -/
theorem isSome_complete (hs : s.Sound) :
    (s.complete d x).1.isSome = true ↔ (s.lane d).active = true := by
  cases ha : (s.lane d).active with
  | false =>
    rw [complete_of_idle ha]
    exact Iff.rfl
  | true =>
    rw [complete_of_active hs ha]
    exact Iff.rfl

/-! ## Histories -/

theorem draining_after (h : s.Draining) (quiet : .start ∉ acts) : (s.after acts).Draining := by
  induction acts generalizing s with
  | nil => exact h
  | cons a acts ih =>
    rw [List.mem_cons, not_or] at quiet
    exact ih (draining_step h (Ne.symm quiet.1)) quiet.2

/-- **A direction of an engine that drains runs until its first turn.** -/
theorem active_after (h : s.Draining) (quiet : .start ∉ acts) :
    ((s.after acts).lane d).active = true ↔
      (s.lane d).active = true ∧ ∀ a ∈ acts, a.turn? ≠ some d := by
  induction acts generalizing s with
  | nil => exact (and_iff_left fun _ ha => absurd ha List.not_mem_nil).symm
  | cons a acts ih =>
    rw [List.mem_cons, not_or] at quiet
    have ne : a ≠ .start := Ne.symm quiet.1
    rw [after_cons, ih (draining_step h ne) quiet.2, h.active_step ne, List.forall_mem_cons,
      and_assoc]

/-- Nothing runs once every direction that ran had a turn. -/
theorem isActive_after_eq_false_iff (h : s.Draining) (quiet : .start ∉ acts) :
    (s.after acts).isActive = false ↔
      ∀ d, (s.lane d).active = true → ∃ a ∈ acts, a.turn? = some d := by
  have sound := (draining_after h quiet).toSound
  rw [← Bool.not_eq_true, isActive_iff]
  constructor
  · intro idle d ran
    refine Classical.byContradiction fun none => idle ⟨d, ?_⟩
    have active := (active_after h quiet).mpr ⟨ran, fun a ha turn => none ⟨a, ha, turn⟩⟩
    exact ⟨sound.used active, active⟩
  · rintro turns ⟨d, -, active⟩
    obtain ⟨ran, none⟩ := (active_after h quiet).mp active
    obtain ⟨a, ha, turn⟩ := turns d ran
    exact none a ha turn

variable {rig rig' : Rig n} {config : Config} {link : Fin n} {wired : Bool} {engine : Engine n}

theorem idle_of_install_eq_ok (built : rig.install config link wired = (.ok engine, rig'))
    (idle : ∀ d, (rig.transport.dma.lane d).Idle) (d : Direction) :
    ((⟨engine, rig'⟩ : Installed n).lane d).Idle := by
  rw [lane, (of_install_eq_ok built).2.1]
  exact idle d

/-- **What a cancel leaves to be delivered.** An engine on a controller of its own is cancelled
after whatever happened to it, and not started any more. From then on a turn of a direction is
somebody's exactly if that direction ran when the engine was cancelled and had no turn since: one
that ran has one more turn, and one that was idle has none. Nothing runs any more exactly from when
every direction that ran had its turn; and then, unless there was a fault before or a transfer broke
down since, the engine is at rest, with its codec or without. -/
theorem drained_after (built : rig.install config link wired = (.ok engine, rig'))
    (idle : ∀ d, (rig.transport.dma.lane d).Idle) (acts more : List Act)
    (quiet : .start ∉ more) :
    let asked := (⟨engine, rig'⟩ : Installed n).after acts
    let ran := fun d => asked.rig.transport.dma.isActive d = true
    let t := asked.cancel.after more
    (∀ d x, (t.complete d x).1.isSome = true ↔ ran d ∧ ∀ a ∈ more, a.turn? ≠ some d) ∧
      (t.isActive = false ↔ ∀ d, ran d → ∃ a ∈ more, a.turn? = some d) ∧
      (asked.isFaulted = false → ¬asked.cancel.Reported more → t.isActive = false →
        t.phase = if t.engine.codec.isSome then .codecReady else .armed) := by
  intro asked ran t
  have sound : asked.Sound := sound_after (sound_of_idle (idle_of_install_eq_ok built idle))
  have draining : asked.cancel.Draining := draining_cancel sound
  have hran : ∀ d, (asked.cancel.lane d).active = true ↔ ran d := fun d => by
    rw [active_cancel]
    rfl
  refine ⟨fun d x => ?_, ?_, fun clear unreported resting => ?_⟩
  · rw [isSome_complete (draining_after draining quiet).toSound, active_after draining quiet, hran]
  · rw [isActive_after_eq_false_iff draining quiet]
    exact forall_congr' fun d => imp_congr_left (hran d)
  · have still : t.isFaulted = false := by
      rw [← Bool.not_eq_true, isFaulted_after_iff_reported draining.toSound]
      rintro (faulted | reported)
      · exact Bool.false_ne_true (clear.symm.trans faulted)
      · exact unreported reported
    exact phase_of_idle still resting

/-- A duplex engine whose start was refused its second lane: it saw a fault, and its first direction
runs. -/
def halfStarted : Installed 1 :=
  (alone .duplex .probe none).after [.refuse .receive, .start]

/-- Cancelled, it has one turn left in the direction that runs. A transfer of the other one that
breaks down is nobody's, a second cancel makes no difference, and it still runs after both. A duplex
engine that streams and is cancelled rests after two deliveries. -/
theorem drained_after_refused :
    let s := alone .duplex .probe none
    let t := halfStarted.cancel.after [.fail .receive, .cancel]
    let rested := (s.after [.start]).cancel.after [.finish .receive [], .finish .transmit []]
    (∀ d, ((Rig.bare none).transport.dma.lane d).Idle) ∧ halfStarted.isFaulted = true ∧
      (∀ x, (t.complete .receive x).1.isSome = false) ∧
      (∀ x, (t.complete .transmit x).1.isSome = true) ∧ t.isActive = true ∧
      rested.isActive = false ∧ rested.phase = .armed := by
  intro s t rested
  have idle : ∀ d, ((Rig.bare none).transport.dma.lane d).Idle := Rig.fresh_bare.idle
  have built : (Rig.bare none).install s.engine.config 0 true = (.ok s.engine, s.rig) :=
    install_of_following rfl
  obtain ⟨turns, ends, -⟩ := drained_after built idle [.refuse .receive, .start]
    [.fail .receive, .cancel] (by decide)
  have ran : halfStarted.rig.transport.dma.isActive .transmit = true := rfl
  have active : t.isActive = true := by
    refine eq_true_of_ne_false fun ended => ?_
    have turn : ∃ a ∈ [Act.fail .receive, .cancel], a.turn? = some .transmit :=
      ends.mp ended .transmit ran
    exact absurd turn (by decide)
  obtain ⟨-, rests, resting⟩ := drained_after built idle [.start]
    [.finish .receive [], .finish .transmit []] (by decide)
  have still : rested.isActive = false := rests.mpr fun d _ => by cases d <;> decide
  have unreported : ¬(s.after [.start]).cancel.Reported
      [.finish .receive [], .finish .transmit []] := not_reported_of_forall (by simp)
  refine ⟨idle, rfl, fun x => eq_false_of_ne_true fun served => ?_, fun x => ?_, active, still,
    ?_⟩
  · exact ((turns .receive x).mp served).2 (.fail .receive) List.mem_cons_self rfl
  · exact (turns .transmit x).mpr ⟨ran, by decide⟩
  · exact resting rfl unreported still

end Installed

end SerialAudio
