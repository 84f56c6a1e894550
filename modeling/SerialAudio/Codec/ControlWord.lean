/-!
# Control words

The two codec families take two bytes for each register that is written. One family has registers of
eight bits. The other has registers of nine bits with seven-bit numbers, so the top bit of the value
travels in the byte of the register, and a number or a value that is too wide loses its upper bits.

`ControlWord.plain` and `ControlWord.packed` write the two forms. `ControlWord.decode` reads the
second one as the codec does, and it is written without looking at the writer.
-/

namespace SerialAudio

/-- Two bytes, in the order in which they are sent. -/
structure ControlWord where
  /-- The first byte. -/
  high : UInt8
  /-- The second byte. -/
  low : UInt8
deriving DecidableEq, Repr

namespace ControlWord

/-- The bytes of a control word. -/
def bytes (w : ControlWord) : List UInt8 := [w.high, w.low]

/-- A register of eight bits and its value. -/
def plain (register value : UInt8) : ControlWord := ⟨register, value⟩

/-- The greatest value of a register of nine bits. -/
def greatestValue : UInt16 := 0x1FF

/-- A register number of seven bits and a value of nine, as one 16-bit word. -/
def packedWord (register : UInt8) (value : UInt16) : UInt16 :=
  (register.toUInt16 <<< 9) ||| (value &&& greatestValue)

/-- The two bytes of a 16-bit word, upper byte first. -/
def ofWord (w : UInt16) : ControlWord := ⟨(w >>> 8).toUInt8, w.toUInt8⟩

/-- A register of nine bits and its value. -/
def packed (register : UInt8) (value : UInt16) : ControlWord := ofWord (packedWord register value)

/-- The register and the value that a codec with registers of nine bits reads from two bytes. -/
def decode (w : ControlWord) : UInt8 × UInt16 :=
  (w.high >>> 1, (w.high &&& 1).toUInt16 * 256 + w.low.toUInt16)

end ControlWord

end SerialAudio
