import SerialAudio.Engine.Basic
/-!
# Histories

What happens to an engine between being built and being removed is a list of acts. Some are done by
whoever owns the engine, others by the transfers, and they may come in any order: a history with two
starts in a row or a cancel before the first start is a history like any other.

`Installed.after` is the state that a history leaves, and `Installed.outcomes` is what was answered
on the way. Both are folds over the same step, so a fact about all histories is a fact about one
act.
-/

namespace SerialAudio

/-- Something that happens to an engine on its rig. -/
inductive Act where
  /-- Its owner starts it. -/
  | start
  /-- Its owner cancels it. -/
  | cancel
  /-- The controller is told to refuse the starts of a direction. -/
  | refuse (d : Direction)
  /-- A transfer ends. -/
  | finish (d : Direction) (buffer : List UInt32)
  /-- A transfer breaks down. -/
  | fail (d : Direction)
deriving DecidableEq, Repr

/-- What comes of an act. -/
inductive Outcome where
  /-- Nothing to say. -/
  | done
  /-- Whether the engine started. -/
  | started (r : Except StartError Unit)
  /-- What was delivered, if it was anybody's turn. -/
  | delivered (v : Option Delivery)

namespace Installed

variable {n : Nat}

/-- Tell the controller to refuse the starts of a direction. -/
def refuse (s : Installed n) (d : Direction) : Installed n :=
  { s with rig.transport.dma := s.rig.transport.dma.refuse d }

/-- Let an act happen. -/
def step (s : Installed n) : Act → Outcome × Installed n
  | .start => let (r, s) := s.start; (.started r, s)
  | .cancel => (.done, s.cancel)
  | .refuse d => (.done, s.refuse d)
  | .finish d buffer => let (v, s) := s.complete d (.finished buffer); (.delivered v, s)
  | .fail d => let (v, s) := s.complete d (.failed []); (.delivered v, s)

/-- The state after a history. -/
def after (s : Installed n) (acts : List Act) : Installed n :=
  acts.foldl (fun s a => (s.step a).2) s

/-- What comes of the acts of a history, in order. -/
def outcomes (s : Installed n) : List Act → List Outcome
  | [] => []
  | a :: acts => (s.step a).1 :: outcomes (s.step a).2 acts

/-! ## Histories cut in two -/

variable {s : Installed n} {a : Act} {acts more : List Act}

@[simp] theorem after_nil : s.after [] = s := rfl

@[simp] theorem after_cons : s.after (a :: acts) = (s.step a).2.after acts := rfl

@[simp] theorem after_append : s.after (acts ++ more) = (s.after acts).after more :=
  List.foldl_append

@[simp] theorem outcomes_nil : s.outcomes [] = [] := rfl

@[simp] theorem outcomes_cons :
    s.outcomes (a :: acts) = (s.step a).1 :: (s.step a).2.outcomes acts := rfl

@[simp] theorem outcomes_append :
    s.outcomes (acts ++ more) = s.outcomes acts ++ (s.after acts).outcomes more := by
  induction acts generalizing s with
  | nil => rfl
  | cons a acts ih => simp [ih]

/-! ## What no act changes -/

@[simp] theorem engine_trip : s.trip.engine = s.engine := rfl

@[simp] theorem engine_arm : s.arm.engine = s.engine := rfl

theorem engine_startLane (d : Direction) : (s.startLane d).2.engine = s.engine := by
  unfold startLane
  split <;> rfl

theorem engine_startLanes (ds : List Direction) : (startLanes ds s).2.engine = s.engine := by
  induction ds generalizing s with
  | nil => rfl
  | cons d ds ih =>
    have hd := engine_startLane (s := s) d
    unfold startLanes
    split <;> rename_i h <;> rw [h] at hd
    · rw [ih, hd]
    · exact hd

theorem config_prepareCodec : s.prepareCodec.2.engine.config = s.engine.config := by
  unfold prepareCodec
  split
  · unfold setUpCodec
    split <;> rfl
  · rfl

theorem config_start : s.start.2.engine.config = s.engine.config := by
  unfold start
  split
  · rfl
  have hc := config_prepareCodec (s := s)
  generalize s.prepareCodec = prepared at hc
  obtain ⟨r, t⟩ := prepared
  cases r with
  | error e => exact hc
  | ok u =>
    have hl := engine_startLanes (s := t.arm) t.directions
    dsimp only
    generalize startLanes t.directions t.arm = lanes at hl
    obtain ⟨r, w⟩ := lanes
    cases r with
    | error e => exact (congrArg Engine.config hl).trans hc
    | ok u => exact (congrArg Engine.config hl).trans hc

theorem config_step : (s.step a).2.engine.config = s.engine.config := by
  cases a with
  | start => exact config_start
  | cancel => rfl
  | refuse d => rfl
  | finish d buffer => rfl
  | fail d => rfl

/-- The configuration is what it was when the engine was built. -/
theorem config_after : (s.after acts).engine.config = s.engine.config := by
  induction acts generalizing s with
  | nil => rfl
  | cons a acts ih => rw [after_cons, ih, config_step]

end Installed

end SerialAudio
