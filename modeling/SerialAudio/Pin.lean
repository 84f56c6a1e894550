import SerialAudio.Mode
/-!
# Pins

The four signals of the block sit on four consecutive pins. Which of them are routed depends on the
mode alone, and `Pinout.pins` fixes the order in which they are routed and given back, so that
taking and giving back cannot disagree.

Pin numbers stop at 255 instead of wrapping around: a base that is too high is a wrong board
description, and it must not alias pin 0.
-/

namespace SerialAudio

/-- What a pin is connected to. -/
inductive PinFunction where
  /-- A plain input, the state of a pin that nobody uses. -/
  | input
  /-- The first alternate function. -/
  | alternate0
  /-- The third alternate function. -/
  | alternate2
deriving DecidableEq, Repr

/-- The three-bit code that selects a function in the pin controller. -/
def PinFunction.selector : PinFunction → UInt32
  | .input => 0
  | .alternate0 => 4
  | .alternate2 => 6

/-- Where the signals of the block come out. -/
structure Pinout where
  /-- The pin of the bit clock; the other signals follow it. -/
  base : UInt8
  /-- The function that connects these pins to the block. -/
  function : PinFunction
deriving DecidableEq, Repr

namespace Pinout

/-- The pins of the 40-pin header. -/
def standard : Pinout := ⟨18, .alternate0⟩

/-- The pins of the P5 header, on boards that have one. -/
def legacyP5 : Pinout := ⟨28, .alternate2⟩

instance : Inhabited Pinout := ⟨standard⟩

/-- The pin `n` places after the base, at most 255. -/
def pin (p : Pinout) (n : Nat) : UInt8 := UInt8.ofNat (min (p.base.toNat + n) 255)

/-- The pin of the bit clock. -/
def clock (p : Pinout) : UInt8 := p.base

/-- The pin of the frame sync. -/
def frameSync (p : Pinout) : UInt8 := p.pin 1

/-- The pin of captured data. -/
def dataIn (p : Pinout) : UInt8 := p.pin 2

/-- The pin of played data. -/
def dataOut (p : Pinout) : UInt8 := p.pin 3

/-- The pins that a mode needs, in the order in which they are routed. -/
def pins (p : Pinout) (m : Mode) : List UInt8 :=
  [p.clock, p.frameSync]
    ++ (if m.receives then [p.dataIn] else [])
    ++ (if m.transmits then [p.dataOut] else [])

end Pinout

end SerialAudio
