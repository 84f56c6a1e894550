import SerialAudio.Mode
import SerialAudio.Sample
/-!
# The fields of the registers

Each field has a name here and nowhere else a number. The words that configure a frame are built
from the fields, so that the layout of a frame (two channels of 32 bit clocks, the frame sync high
for the first of them, samples one clock after its edge) can be read off their definitions.
-/

namespace SerialAudio

namespace Register

/-- A number placed in a field. -/
def place (n shift : UInt32) : UInt32 := n <<< shift

/-- A word with one bit set. -/
def bit (n : UInt32) : UInt32 := place 1 n

/-! ## Control and status -/

namespace ControlStatus

/-- Leaves standby: the memory behind the queues is powered. -/
def standby : UInt32 := bit 25

/-- Captured samples are sign-extended to the slot. -/
def signExtend : UInt32 := bit 23

/-- Transfers may be asked for. -/
def dmaEnable : UInt32 := bit 9

/-- Clears the capture queue. -/
def clearCapture : UInt32 := bit 4

/-- Clears the playback queue. -/
def clearPlayback : UInt32 := bit 3

/-- Playback runs. -/
def transmit : UInt32 := bit 2

/-- Capture runs. -/
def receive : UInt32 := bit 1

/-- The block is on. -/
def enable : UInt32 := bit 0

/-- The bits that let one direction run. Captured samples are narrower than their slot, so capture
also needs the sign extended. -/
def streamBits : Direction → UInt32
  | .transmit => transmit
  | .receive => receive ||| signExtend

/-- The bits that let every direction of a mode run. -/
def enableBits (m : Mode) : UInt32 :=
  (if m.transmits then streamBits .transmit else 0)
    ||| (if m.receives then streamBits .receive else 0)

end ControlStatus

/-! ## Frame format -/

namespace FrameFormat

/-- The bit clock is inverted. -/
def clockInvert : UInt32 := bit 22

/-- The bit clock comes from outside. -/
def clockFollow : UInt32 := bit 23

/-- The frame sync is inverted. -/
def syncInvert : UInt32 := bit 20

/-- The frame sync comes from outside. -/
def syncFollow : UInt32 := bit 21

/-- Where the length of a frame lies, less one. -/
def lengthShift : UInt32 := 10

/-- Where the length of the frame sync lies. -/
def syncLengthShift : UInt32 := 0

/-- A frame of 64 bit clocks whose sync is high for 32, with both clocks made here. -/
def leading : UInt32 :=
  clockInvert ||| syncInvert ||| place (UInt32.ofNat (Frame.bits - 1)) lengthShift
    ||| place (UInt32.ofNat Frame.bitsPerSlot) syncLengthShift

/-- The same frame with both clocks taken from outside. -/
def following : UInt32 := leading ||| clockFollow ||| syncFollow

/-- The frame format of a role. -/
def ofRole : Role → UInt32
  | .master => leading
  | .slave => following

end FrameFormat

/-! ## Slots -/

namespace SlotLayout

/-- The first channel is wider than 24 bits. -/
def firstWide : UInt32 := bit 31

/-- The first channel is in use. -/
def firstEnable : UInt32 := bit 30

/-- Where the position of the first channel lies. -/
def firstPositionShift : UInt32 := 20

/-- Where the width of the first channel lies. -/
def firstWidthShift : UInt32 := 16

/-- The second channel is wider than 24 bits. -/
def secondWide : UInt32 := bit 15

/-- The second channel is in use. -/
def secondEnable : UInt32 := bit 14

/-- Where the position of the second channel lies. -/
def secondPositionShift : UInt32 := 4

/-- Where the width of the second channel lies. -/
def secondWidthShift : UInt32 := 0

/-- Two 32-bit slots. The first starts one bit clock after the edge of the frame sync, the second
right behind it. -/
def map : UInt32 :=
  firstWide ||| firstEnable ||| place 1 firstPositionShift
    ||| secondWide ||| secondEnable
    ||| place (UInt32.ofNat (Frame.bitsPerSlot + 1)) secondPositionShift

end SlotLayout

/-! ## Transfer requests -/

namespace RequestLevel

/-- The lowered level. Seven bits hold it. -/
def low : UInt32 := 0x18

/-- Where the level of a direction lies. -/
def shift : Direction → UInt32
  | .transmit => 8
  | .receive => 0

/-- The bits that hold the level of a direction. -/
def mask (d : Direction) : UInt32 := place 0x7F (shift d)

/-- The levels with that of one direction lowered. -/
def lower (d : Direction) (levels : UInt32) : UInt32 :=
  (levels &&& ~~~mask d) ||| place low (shift d)

/-- A chunk of this many slots or more works with the levels of a block that was just reset. -/
def defaultChunk : Nat := 64

end RequestLevel

end Register

end SerialAudio
