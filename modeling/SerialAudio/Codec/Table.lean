import SerialAudio.Codec.ControlWord
/-!
# Codec families

Two families of codec are known. A family is a control word format and a table: the registers that
have to be written, in order, before the codec plays. Which family answers at an address is decided
by the address alone, since neither can be asked what it is; one of them cannot even be read.
-/

namespace SerialAudio

namespace Codec

/-- The known codec families. -/
inductive Family where
  /-- A converter with registers of eight bits. -/
  | pcm51xx
  /-- A codec with registers of nine bits. -/
  | wm8960
deriving DecidableEq, Repr

/-- The word for a family in messages. -/
def Family.name : Family → String
  | .pcm51xx => "Pcm51xx"
  | .wm8960 => "Wm8960"

/-- A register and the value it is given. -/
structure Setting (ν : Type) where
  /-- The register. -/
  register : UInt8
  /-- The value. -/
  value : ν
deriving DecidableEq, Repr

/-! ## The eight-bit family -/

namespace Pcm51xx

/-- Which clock the phase-locked loop follows. -/
def pllReference : UInt8 := 0x0D

/-- Which clock faults are ignored. -/
def errorDetection : UInt8 := 0x25

/-- Whether silence mutes the output. -/
def autoMute : UInt8 := 0x41

/-- The addresses at which the family may sit, in the order in which they are tried. -/
def addresses : List UInt8 := [0x4C, 0x4D]

/-- Follow the bit clock, overlook a halted clock, and do not mute silence. -/
def settings : List (Setting UInt8) :=
  [⟨pllReference, 0x10⟩, ⟨errorDetection, 0x08⟩, ⟨autoMute, 0x04⟩]

/-- The control word of a setting. -/
def encode (s : Setting UInt8) : ControlWord := .plain s.register s.value

end Pcm51xx

/-! ## The nine-bit family -/

namespace Wm8960

/-- The only address of the family. -/
def address : UInt8 := 0x1A

/-- From reset to both outputs open. -/
def settings : List (Setting UInt16) := [
  -- reset
  ⟨15, 0x000⟩,
  -- power
  ⟨25, 0x1FC⟩, ⟨26, 0x1F9⟩, ⟨47, 0x03C⟩,
  -- clocks: the phase-locked loop
  ⟨4, 0x001⟩, ⟨52, 0x027⟩, ⟨53, 0x086⟩, ⟨54, 0x0C2⟩, ⟨55, 0x026⟩,
  -- converters: unmuted, 24 bits, clocks from outside
  ⟨5, 0x000⟩, ⟨7, 0x002⟩,
  -- level control and noise gate
  ⟨20, 0x0F9⟩, ⟨17, 0x1FB⟩, ⟨18, 0x000⟩, ⟨19, 0x032⟩,
  -- headphone volume
  ⟨2, 0x16F⟩, ⟨3, 0x16F⟩,
  -- speaker volume
  ⟨40, 0x17F⟩, ⟨41, 0x178⟩, ⟨51, 0x08D⟩,
  -- input volume
  ⟨0, 0x13F⟩, ⟨1, 0x13F⟩,
  -- input path
  ⟨32, 0x138⟩, ⟨33, 0x138⟩,
  -- speaker outputs
  ⟨49, 0x0F7⟩,
  -- digital volume
  ⟨10, 0x1FF⟩, ⟨11, 0x1FF⟩,
  -- output mixers
  ⟨34, 0x100⟩, ⟨37, 0x100⟩]

/-- The control word of a setting. -/
def encode (s : Setting UInt16) : ControlWord := .packed s.register s.value

end Wm8960

namespace Family

/-- The control words that bring a codec of the family up, in order. -/
def table : Family → List ControlWord
  | .pcm51xx => Pcm51xx.settings.map Pcm51xx.encode
  | .wm8960 => Wm8960.settings.map Wm8960.encode

/-- The family that answers at an address. -/
def atAddress (address : UInt8) : Family := if address = Wm8960.address then .wm8960 else .pcm51xx

end Family

/-- Where a codec may sit and which family it is then, in the order in which places are tried. -/
def probeChain : List (UInt8 × Family) :=
  Pcm51xx.addresses.map (·, .pcm51xx) ++ [(Wm8960.address, .wm8960)]

end Codec

end SerialAudio
