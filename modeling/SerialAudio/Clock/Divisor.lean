import SerialAudio.Clock.Word
import SerialAudio.Rate
import SerialAudio.Sample
/-!
# The divisor of the clock generator

The bit clock must run at 64 clocks per frame, and the generator divides a fixed source clock by
`integer + fraction / 4096`. The exact ratio is `source / 64 / rate`, so the generator can only be
asked for the nearest step. Rounding is half up, and a fraction that rounds up to a whole step is
carried into the integer part.

The intermediate numbers are named and live in `Nat`. They fit in 64 bits by a wide margin, and
stating that as a bound on a named number is easier than reading it off a chain of conversions.

The way back, from a divisor to the bit clock that it makes, takes any divisor, so nothing is known
about its numbers. They are 64-bit words that stop at the greatest word instead of wrapping around,
and a bit clock that no 32-bit word holds is shown as no bit clock at all.
-/

namespace SerialAudio

namespace Clock

/-- Steps of the fraction in a whole division. -/
def stepsPerUnit : Nat := 4096

/-- The greatest fraction. -/
def greatestFraction : Nat := 4095

/-- Why no divisor exists. -/
inductive ClockError where
  /-- The source clock stands still. -/
  | zeroSource
  /-- The source clock has no whole number of frames per second. -/
  | sourceNotFrameAligned (hz : UInt32)
  /-- No frames per second were asked for. -/
  | zeroRate
deriving DecidableEq, Repr

/-- The text shown when no divisor exists. -/
def ClockError.message : ClockError → String
  | .zeroSource => "clock source reports 0 Hz"
  | .sourceNotFrameAligned hz => s!"clock source {hz} Hz is not a multiple of {Frame.bits}"
  | .zeroRate => "sample rate of 0 Hz"

/-- The fraction of a division, rounded half up to a step, before any carry. -/
def roundedFraction (base hz : Nat) : Nat :=
  (base % hz * stepsPerUnit + hz / 2) / hz

/-- A number of whole units in steps, as a word. -/
def unitSteps (units : UInt32) : UInt64 := mulClamped units.toUInt64 (UInt64.ofNat stepsPerUnit)

end Clock

open Clock

/-- What the source clock is divided by: `integer + fraction / 4096`. Any pair of words is
accepted, since the generator's registers hold any; `Divisor.nearest` stays below 4096. -/
structure Divisor where
  /-- The whole divisions. -/
  integer : UInt32
  /-- The rest, in steps of 1/4096. -/
  fraction : UInt16
deriving DecidableEq, Repr

namespace Divisor

/-- The divisor in steps of 1/4096. -/
def steps (d : Divisor) : Nat := d.integer.toNat * stepsPerUnit + d.fraction.toNat

/-- A divisor with a fraction needs the generator's dithering stage. -/
def isFractional (d : Divisor) : Bool := 0 < d.fraction

/-- The divisor of `base / hz` frames, nearest to the exact ratio; a tie rounds up. -/
def ofRatio (base hz : Nat) : Divisor :=
  let integer := UInt32.ofNat (base / hz)
  let fraction := roundedFraction base hz
  if fraction ≤ greatestFraction then ⟨integer, UInt16.ofNat fraction⟩
  else ⟨succClamped integer, 0⟩

/-- The divisor that turns a source clock into the bit clock of a rate. -/
def nearest (source : UInt32) (rate : SampleRate) : Except ClockError Divisor :=
  if source = 0 then .error .zeroSource
  else if source.toNat % Frame.bits ≠ 0 then .error (.sourceNotFrameAligned source)
  else if rate.hz = 0 then .error .zeroRate
  else .ok (ofRatio (source.toNat / Frame.bits) rate.hz.toNat)

/-- The divisor in steps, as a word. -/
def stepsWord (d : Divisor) : UInt64 := addClamped (unitSteps d.integer) d.fraction.toUInt64

/-- The bit clock that a source yields, rounded down; `0` if the divisor is zero or the clock does
not fit in a word. -/
def bitClock (source : UInt32) (d : Divisor) : UInt32 :=
  if d.stepsWord = 0 then 0
  else
    let hz := unitSteps source / d.stepsWord
    if hz.toNat < UInt32.size then hz.toUInt32 else 0

end Divisor

end SerialAudio
