import SerialAudio.Mode
/-!
# The transfer controller

The controller has one lane for each direction. A lane that runs calls its handler once for each
buffer; the handler is a parameter here, since the controller only has to know *whom* to call.

Cancelling is a request. The buffer on its way is still delivered, and the lane falls idle with
that delivery: everything about the lane is forgotten then, a standing refusal included, so a lane
that ran and was cancelled is as good as new.

A refused start is the opposite: it is recorded, and apart from that nothing happens. In particular
a lane that already runs goes on running.
-/

namespace SerialAudio

/-- One direction of the controller. -/
structure Lane (η : Type) where
  /-- Whom to call for each buffer. -/
  handler : Option η := none
  /-- Whether the lane runs. -/
  active : Bool := false
  /-- Whether the lane falls idle with its next delivery. -/
  cancelling : Bool := false
  /-- Whether starts are refused. -/
  refusing : Bool := false
deriving DecidableEq, Repr, Inhabited

namespace Lane

variable {η : Type}

/-- Whether a handler is registered. -/
def hasHandler (l : Lane η) : Bool := l.handler.isSome

/-- The lane running for `h`. -/
def run (l : Lane η) (h : η) : Lane η :=
  { l with handler := some h, active := true, cancelling := false }

/-- Ask the lane to fall idle with its next delivery. An idle lane stays as it is. -/
def requestCancel (l : Lane η) : Lane η := if l.active then { l with cancelling := true } else l

/-- Whom a delivery goes to, and the lane after it. -/
def turn (l : Lane η) : Option η × Lane η :=
  match l.active, l.handler with
  | true, some h => (some h, if l.cancelling then {} else l)
  | _, _ => (none, l)

@[simp] theorem turn_of_not_active {l : Lane η} (h : l.active = false) : l.turn = (none, l) := by
  simp [turn, h]

end Lane

/-- A lane could not be started. -/
structure Exhausted where
  /-- The direction that was refused. -/
  direction : Direction
deriving DecidableEq, Repr

/-- The controller with its lanes and its records. -/
structure Dma (η : Type) where
  /-- The number of slots in a buffer of the controller. -/
  slots : Nat
  /-- The playback lane. -/
  transmit : Lane η := {}
  /-- The capture lane. -/
  receive : Lane η := {}
  /-- Every start that was asked for, oldest first. -/
  starts : List Direction := []
  /-- Every cancel that was asked for, oldest first. -/
  cancels : List Direction := []
deriving DecidableEq, Repr

namespace Dma

variable {η : Type} (c : Dma η)

/-- The lane of a direction. -/
def lane : Direction → Lane η
  | .transmit => c.transmit
  | .receive => c.receive

/-- The controller with another lane for a direction. -/
def setLane (d : Direction) (l : Lane η) : Dma η :=
  match d with
  | .transmit => { c with transmit := l }
  | .receive => { c with receive := l }

/-- Whether a direction runs. -/
def isActive (d : Direction) : Bool := (c.lane d).active

/-- Start a direction for a handler. -/
def start (d : Direction) (h : η) : Except Exhausted Unit × Dma η :=
  let c := { c with starts := c.starts ++ [d] }
  let l := c.lane d
  if l.refusing then (.error ⟨d⟩, c) else (.ok (), c.setLane d (l.run h))

/-- Ask a direction to stop after the buffer on its way. -/
def cancel (d : Direction) : Dma η :=
  let c := { c with cancels := c.cancels ++ [d] }
  c.setLane d (c.lane d).requestCancel

/-- Refuse the starts of a direction from now on. -/
def refuse (d : Direction) : Dma η := c.setLane d { c.lane d with refusing := true }

/-- Whom the next delivery of a direction goes to, and the controller after it. -/
def takeTurn (d : Direction) : Option η × Dma η :=
  let (h, l) := (c.lane d).turn
  (h, c.setLane d l)

/-! ## The lanes do not know of each other -/

variable {c} {d e : Direction} {l : Lane η} {h : η}

@[simp] theorem lane_setLane_self : (c.setLane d l).lane d = l := by cases d <;> rfl

theorem lane_setLane_of_ne (ne : e ≠ d) : (c.setLane d l).lane e = c.lane e := by
  cases d <;> cases e <;> first | rfl | exact absurd rfl ne

@[simp] theorem setLane_lane_self : c.setLane d (c.lane d) = c := by cases d <;> rfl

@[simp] theorem starts_setLane : (c.setLane d l).starts = c.starts := by cases d <;> rfl

@[simp] theorem cancels_setLane : (c.setLane d l).cancels = c.cancels := by cases d <;> rfl

@[simp] theorem slots_setLane : (c.setLane d l).slots = c.slots := by cases d <;> rfl

@[simp] theorem starts_start : (c.start d h).2.starts = c.starts ++ [d] := by
  unfold start
  dsimp only
  split <;> simp

@[simp] theorem cancels_start : (c.start d h).2.cancels = c.cancels := by
  unfold start
  dsimp only
  split <;> simp

@[simp] theorem starts_cancel : (c.cancel d).starts = c.starts := by simp [cancel]

@[simp] theorem cancels_cancel : (c.cancel d).cancels = c.cancels ++ [d] := by simp [cancel]

@[simp] theorem starts_takeTurn : (c.takeTurn d).2.starts = c.starts := by simp [takeTurn]

@[simp] theorem cancels_takeTurn : (c.takeTurn d).2.cancels = c.cancels := by simp [takeTurn]

end Dma

end SerialAudio
