import SerialAudio.Codec.Table
import SerialAudio.ControlBus
import SerialAudio.Text.Hex
/-!
# Bringing a codec up

Writing a table stops at the first word that is not taken, since a codec that is half configured is
not worth more words. What that means depends on who chose the address. A *fixed* address says that
a codec is there, so a word that is not taken is a failure. *Probing* is a question, and "nobody is
there" is an answer: a board without a codec that needs configuring is a good board.
-/

namespace SerialAudio

namespace Codec

/-- Where the codec is. -/
inductive Address where
  /-- Try the known places. -/
  | probe
  /-- It sits at this address. -/
  | fixed (address : UInt8)
deriving DecidableEq, Repr, Inhabited

/-- The address that a byte stands for; zero is no address and means that somebody should look. -/
def Address.ofByte (b : UInt8) : Address := if b = 0 then .probe else .fixed b

/-- What came of bringing a codec up. -/
inductive Status where
  /-- Nobody answered at any of the known places. -/
  | absent
  /-- A codec took its whole table. -/
  | configured (family : Family) (address : UInt8)
deriving DecidableEq, Repr

/-- The codec at a fixed address did not take its table. -/
structure Failure (ε : Type := BusError) where
  /-- The family that was expected. -/
  family : Family
  /-- The address. -/
  address : UInt8
  /-- What the bus said about the word that was not taken. -/
  cause : ε
deriving DecidableEq, Repr

/-- The text shown for a codec that did not take its table. -/
def Failure.message (f : Failure) : String :=
  f.family.name ++ " codec at " ++ Text.hexByte f.address
    ++ " did not accept its register table: " ++ f.cause.message

variable {ε : Type}

/-- Send control words until one is not taken. -/
def writeAll (b : ControlBus ε) (address : UInt8) :
    List ControlWord → Except ε Unit × ControlBus ε
  | [] => (.ok (), b)
  | w :: ws =>
    match b.write address w.bytes with
    | (.ok (), b) => writeAll b address ws
    | (.error e, b) => (.error e, b)

/-- Write the table of a family. -/
def configure (b : ControlBus ε) (family : Family) (address : UInt8) :
    Except ε Unit × ControlBus ε :=
  writeAll b address family.table

/-- Try places until a codec takes its whole table. -/
def probe (b : ControlBus ε) : List (UInt8 × Family) → Status × ControlBus ε
  | [] => (.absent, b)
  | (address, family) :: rest =>
    match configure b family address with
    | (.ok (), b) => (.configured family address, b)
    | (.error _, b) => probe b rest

/-- Bring the codec up that an address stands for. -/
def setUp (b : ControlBus ε) : Address → Except (Failure ε) Status × ControlBus ε
  | .fixed address =>
    let family := Family.atAddress address
    match configure b family address with
    | (.ok (), b) => (.ok (.configured family address), b)
    | (.error cause, b) => (.error ⟨family, address, cause⟩, b)
  | .probe => let (s, b) := probe b probeChain; (.ok s, b)

end Codec

end SerialAudio
