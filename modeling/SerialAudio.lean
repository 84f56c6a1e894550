import SerialAudio.Engine.Bench
import SerialAudio.Engine.History
import SerialAudio.Peripheral.Program
import SerialAudio.Peripheral.Replay
import SerialAudio.Tasks.ResultLine
import SerialAudio.Main
import SerialAudio.Proofs.Engine.Faults
import SerialAudio.Proofs.Engine.Lifecycle
import SerialAudio.Proofs.Engine.Requests
import SerialAudio.Stream.History
import SerialAudio.Proofs.Stream.Calls
import SerialAudio.Proofs.Stream.Playback
import SerialAudio.Proofs.Stream.Capture
import SerialAudio.Proofs.Engine.Registers
import SerialAudio.Proofs.Peripheral.Discipline
import SerialAudio.Engine.Calls
import SerialAudio.Proofs.Engine.Discipline
import SerialAudio.Proofs.Clock.BitClock
import SerialAudio.Proofs.Engine.OwnClock
import SerialAudio.Proofs.Engine.AllOrNothing
import SerialAudio.Proofs.Engine.Removal
import SerialAudio.Proofs.Engine.Draining
import SerialAudio.Proofs.Engine.CodecOnce
import SerialAudio.Proofs.Stream.Channels
import SerialAudio.Transport.History
import SerialAudio.Proofs.Stream.Sides
import SerialAudio.Proofs.Transport.Interleavings
import SerialAudio.Stream.Service
import SerialAudio.Engine.Life
import SerialAudio.Proofs.Engine.Hearing
import SerialAudio.Proofs.Engine.Rebuilding
import SerialAudio.Proofs.Engine.UnusedDirection
import SerialAudio.Proofs.Clock.HalfUp
import SerialAudio.Stream.Loopback
import SerialAudio.Proofs.Stream.RoundTrip
import SerialAudio.Proofs.Tasks.Stages
import SerialAudio.Proofs.Engine.Inheritance
import SerialAudio.Proofs.Peripheral.Repetition
import SerialAudio.Dma.History
import SerialAudio.Proofs.Dma.Requests
import SerialAudio.Proofs.Dma.Refusals
import SerialAudio.Proofs.Text.Cutting
import SerialAudio.Proofs.Text.Decimal
import SerialAudio.Tasks.Output
import SerialAudio.Proofs.Tasks.Totals
import SerialAudio.Proofs.Tasks.ResultLines
import SerialAudio.Proofs.Codec.ControlWords
import SerialAudio.Proofs.Peripheral.Accounting
import SerialAudio.Proofs.Peripheral.Pairing
