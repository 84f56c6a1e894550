import SerialAudio.Chunk
import SerialAudio.Peripheral.Basic
import SerialAudio.Register.Fields
/-!
# The sequences of the block

Four sequences take the block through its life. Each takes the bus guard once and gives it back
before it returns, so the guard is never held while samples move.

The order inside `configure` is not a matter of taste. The block is switched off before anything
else, so that what follows does not depend on the state in which it was found; the frame format is
written while the block is off; and the pins are routed before the block drives them.

`enable` is apart from `armDma` on purpose: between the two the caller starts the transfers, and a
block that runs before its transfers do would run dry in its first frame.
-/

namespace SerialAudio

open Register

/-- How long the block needs after it was switched off, cleared or switched on, in microseconds. -/
def settleUs : UInt32 := 10

/-- How long the block needs to leave standby, in microseconds. -/
def standbySettleUs : UInt32 := 50

namespace Peripheral

variable (p : Peripheral)

/-- Run `body` with the bus guard held. -/
def withBus (body : Peripheral → Peripheral) : Peripheral := (body p.enter).exit

/-- Set bits of the control register. -/
def raise (bits : UInt32) : Peripheral := p.modify .controlStatus (· ||| bits)

/-- Connect the pins that a mode needs to the block. -/
def connectPins (o : Pinout) (m : Mode) : Peripheral := p.routeAll (o.pins m) o.function

/-- Turn the pins that a mode needs back into inputs. -/
def disconnectPins (o : Pinout) (m : Mode) : Peripheral := p.routeAll (o.pins m) .input

/-- Bring the block from any state to switched on and idle. In the master role the clock has to run
already. -/
def configure (m : Mode) (role : Role) (o : Pinout) : Peripheral :=
  p.withBus fun p =>
    p.write .controlStatus 0
      |>.delayUs settleUs
      |>.raise (ControlStatus.clearPlayback ||| ControlStatus.clearCapture)
      |>.delayUs settleUs
      |>.write .txConfig SlotLayout.map
      |>.write .rxConfig SlotLayout.map
      |>.write .mode (FrameFormat.ofRole role)
      |>.connectPins o m
      |>.raise ControlStatus.standby
      |>.delayUs standbySettleUs
      |>.raise ControlStatus.enable
      |>.delayUs settleUs

/-- Lower the request level of a direction if the mode carries it. -/
def lowerLevel (m : Mode) (d : Direction) : Peripheral :=
  if m.uses d then p.modify .dmaRequest (RequestLevel.lower d) else p

/-- Let the block ask for transfers. A short chunk needs lower levels, since the default ones leave
less than a chunk of room. -/
def armDma (m : Mode) (c : Chunk) : Peripheral :=
  p.withBus fun p =>
    let p := if c.slots < RequestLevel.defaultChunk then
        (p.lowerLevel m .transmit).lowerLevel m .receive
      else p
    p.raise ControlStatus.dmaEnable

/-- Let every direction of a mode run. -/
def enable (m : Mode) : Peripheral :=
  p.withBus fun p => p.raise (ControlStatus.enableBits m)

/-- Stop the clock generator if this block owns it. -/
def stopOwnClock : Role → Peripheral
  | .master => p.stopClock
  | .slave => p

/-- Switch the block off, stop its clock and give its pins back. -/
def shutDown (m : Mode) (role : Role) (o : Pinout) : Peripheral :=
  let off := p.withBus fun p => (p.write .controlStatus 0).delayUs standbySettleUs
  (off.stopOwnClock role).disconnectPins o m

end Peripheral

end SerialAudio
