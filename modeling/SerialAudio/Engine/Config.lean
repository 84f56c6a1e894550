import SerialAudio.Chunk
import SerialAudio.Clock.Divisor
import SerialAudio.Codec.Setup
import SerialAudio.Pin
import SerialAudio.Rate
/-!
# Configurations

A configuration says everything about an engine that does not change while it lives. The parts that
carry a condition, the chunk and the rate, are asked for as plain numbers in a `Request`; what comes
out of `Request.resolve` cannot be wrong by itself any more. It may still not fit the clock of the
machine, which only building the engine can tell.
-/

namespace SerialAudio

/-- What is fixed for the life of an engine. -/
structure Config where
  /-- Which directions are carried. -/
  mode : Mode
  /-- Who drives the clocks. -/
  role : Role := .master
  /-- How much a transfer moves. -/
  chunk : Chunk
  /-- How many frames a second. -/
  rate : SampleRate
  /-- Where the codec is. -/
  codecAddress : Codec.Address := .probe
  /-- Which pins are used. -/
  pinout : Pinout := .standard
deriving DecidableEq, Repr

/-- Why a request makes no configuration. -/
inductive ConfigError where
  /-- The number of slots is no chunk. -/
  | chunk (e : ChunkError)
  /-- The rate is out of range. -/
  | rate (e : RangeError)
deriving DecidableEq, Repr

/-- A configuration as it is asked for. -/
structure Config.Request where
  /-- Which directions are carried. -/
  mode : Mode
  /-- Who drives the clocks. -/
  role : Role := .master
  /-- How many slots a transfer moves. -/
  slots : Nat
  /-- How many frames a second. -/
  rate : RateRequest
  /-- Where the codec is. -/
  codecAddress : Codec.Address := .probe
  /-- Which pins are used. -/
  pinout : Pinout := .standard
deriving DecidableEq, Repr

/-- The configuration that was asked for. If both numbers are wrong, the chunk is blamed. -/
def Config.Request.resolve (r : Config.Request) : Except ConfigError Config :=
  match Chunk.ofSlots r.slots with
  | .error e => .error (.chunk e)
  | .ok chunk =>
    match r.rate.resolve with
    | .error e => .error (.rate e)
    | .ok rate => .ok ⟨r.mode, r.role, chunk, rate, r.codecAddress, r.pinout⟩

/-- Why an engine cannot be built. -/
inductive BuildError where
  /-- This block makes the clock and cannot make that rate. -/
  | rate (e : RangeError)
  /-- The source clock cannot be divided. -/
  | clock (e : Clock.ClockError)
deriving DecidableEq, Repr

/-- The text shown for an engine that cannot be built. -/
def BuildError.message : BuildError → String
  | .rate e => "sample rate: " ++ e.message
  | .clock e => "bit clock: " ++ e.message

/-- The divisor to start the clock generator with, if this block makes the clock at all. A rate that
was taken on trust is checked here, since it comes from outside only in the other role. -/
def Config.divisor (c : Config) (sourceHz : UInt32) : Except BuildError (Option Divisor) :=
  match c.role with
  | .slave => .ok none
  | .master =>
    match SampleRate.checked c.rate.hz with
    | .error e => .error (.rate e)
    | .ok rate =>
      match Divisor.nearest sourceHz rate with
      | .error e => .error (.clock e)
      | .ok d => .ok (some d)

end SerialAudio
