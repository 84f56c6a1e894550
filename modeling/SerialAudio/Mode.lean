/-!
# Directions, modes and roles

A link carries playback, capture or both, for its whole life. The order of `Mode.directions` is
part of the contract: wherever both directions are served in turn, transmit comes first.
-/

namespace SerialAudio

/-- Which way samples move. -/
inductive Direction where
  /-- Playback: memory to wire. -/
  | transmit
  /-- Capture: wire to memory. -/
  | receive
deriving DecidableEq, Repr

/-- The word for a direction in messages. -/
def Direction.name : Direction → String
  | .transmit => "Transmit"
  | .receive => "Receive"

/-- Which directions a link carries. -/
inductive Mode where
  /-- Transmit only. -/
  | playback
  /-- Receive only. -/
  | capture
  /-- Both directions. -/
  | duplex
deriving DecidableEq, Repr

namespace Mode

/-- Whether the mode carries a direction. -/
def uses : Mode → Direction → Bool
  | .playback, d => d = .transmit
  | .capture, d => d = .receive
  | .duplex, _ => true

/-- Whether the mode plays. -/
abbrev transmits (m : Mode) : Bool := m.uses .transmit

/-- Whether the mode captures. -/
abbrev receives (m : Mode) : Bool := m.uses .receive

/-- The directions in use, transmit first. -/
def directions (m : Mode) : List Direction := [.transmit, .receive].filter m.uses

@[simp] theorem mem_directions {m : Mode} {d : Direction} : d ∈ m.directions ↔ m.uses d := by
  cases m <;> cases d <;> decide

end Mode

/-- Who drives the bit clock and the frame sync. -/
inductive Role where
  /-- This block drives both, from the clock generator. -/
  | master
  /-- Somebody else drives both, and the clock generator is left alone. -/
  | slave
deriving DecidableEq, Repr

end SerialAudio
