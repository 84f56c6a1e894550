import SerialAudio.Directory
import SerialAudio.Engine.Config
import SerialAudio.Peripheral.Sequence
import SerialAudio.Transport
/-!
# The engine

An engine ties the parts together: the block, the transfers, the codec and the name under which the
link is listed. Everything it works on belongs to a `Rig`, which outlives it and which several
engines may share. What the engine itself remembers is little: its configuration, whether the codec
was brought up, and whether it was asked to stop.

## The phase is not stored

`Installed.phase` is computed from the latch of the endpoint, the lanes and that little memory.
There is no second copy that could disagree with them, and a fault that some delivery saw is a fault
of the engine at once, without anybody having told it.

## The order inside a start

Codec, then transfer requests, then one lane after the other, then the block itself. A codec that
fails is noticed before any register is written; a lane that is refused ends the start before the
block is told to run, with the lanes before it running. Either way the latch is tripped: what state
things are in then is not worth finding out, so the engine has to be removed and built again.
-/

namespace SerialAudio

/-- What engines work on. -/
structure Rig (n : Nat) where
  /-- The block, its clock generator and its pins. -/
  peripheral : Peripheral
  /-- The transfers and the endpoints. -/
  transport : Transport n
  /-- The control bus, on a machine that has one. -/
  bus : Option ControlBus
  /-- Where devices are listed. -/
  directory : Directory

/-- An engine. -/
structure Engine (n : Nat) where
  /-- What was asked for. -/
  config : Config
  /-- The endpoint that it serves. -/
  link : Fin n
  /-- Whether it may use the control bus. -/
  wired : Bool
  /-- What came of bringing the codec up, once that was tried with success. -/
  codec : Option Codec.Status := none
  /-- Whether it was asked to stop after the last start. -/
  cancelRequested : Bool := false
deriving DecidableEq, Repr

/-- The name under which the link is listed. -/
def deviceName : String := "sndi2s"

/-- Why an engine did not start. -/
inductive StartError where
  /-- It saw a fault before. -/
  | faulted
  /-- The codec at a fixed address did not take its table. -/
  | codec (family : Codec.Family) (address : UInt8)
  /-- A lane could not be started. -/
  | dma (d : Direction)
deriving DecidableEq, Repr

/-- The text shown for an engine that did not start. -/
def StartError.message : StartError → String
  | .faulted => "engine is faulted"
  | .codec family address =>
    family.name ++ " codec at " ++ Text.hexByte address ++ " did not respond"
  | .dma d => "DMA " ++ d.name ++ " pipeline failed to start"

/-- Where an engine is in its life. -/
inductive Phase where
  /-- The block is on, and the codec was not brought up. -/
  | armed
  /-- The codec was brought up, and no direction runs. -/
  | codecReady
  /-- A direction runs. -/
  | streaming
  /-- A direction still runs after the engine was asked to stop. -/
  | canceling
  /-- A fault was seen. -/
  | faulted
deriving DecidableEq, Repr

/-! ## Building -/

/-- Start the clock generator if there is something to start it with. -/
def Peripheral.startOwnClock (p : Peripheral) : Option Divisor → Peripheral
  | none => p
  | some d => p.startClock d

/-- Build an engine: start the clock, bring the block up, list the device. If the clock cannot be
started, nothing is touched. -/
def Rig.install {n : Nat} (rig : Rig n) (config : Config) (link : Fin n) (wired : Bool) :
    Except BuildError (Engine n) × Rig n :=
  match config.divisor rig.peripheral.sourceHz with
  | .error e => (.error e, rig)
  | .ok divisor =>
    let p := rig.peripheral.startOwnClock divisor
    (.ok { config, link, wired },
      { rig with
        peripheral := p.configure config.mode config.role config.pinout
        directory := rig.directory.add deviceName })

/-- An engine on its rig. -/
structure Installed (n : Nat) where
  /-- The engine. -/
  engine : Engine n
  /-- What it works on. -/
  rig : Rig n

namespace Installed

variable {n : Nat} (s : Installed n)

/-! ## Questions -/

/-- The endpoint of the engine. -/
def endpoint : Endpoint := s.rig.transport.endpoint s.engine.link

/-- The directions of the engine. -/
def directions : List Direction := s.engine.config.mode.directions

/-- Whether a fault was seen. -/
def isFaulted : Bool := s.endpoint.isFaulted

/-- Whether a direction of the engine runs. -/
def isActive : Bool := s.directions.any s.rig.transport.dma.isActive

/-- Where the engine is in its life. -/
def phase : Phase :=
  if s.isFaulted then .faulted
  else if s.isActive then
    if s.engine.cancelRequested then .canceling else .streaming
  else if s.engine.codec.isSome then .codecReady
  else .armed

/-! ## Starting -/

/-- Trip the latch. -/
def trip : Installed n := { s with rig.transport := s.rig.transport.trip s.engine.link }

/-- Whether the codec still has to be brought up. Only playback needs it. -/
def codecDue : Bool :=
  s.engine.config.mode.transmits && s.engine.codec.isNone && s.engine.wired

/-- Bring the codec up over a bus. -/
def setUpCodec (bus : ControlBus) : Except StartError Unit × Installed n :=
  match Codec.setUp bus s.engine.config.codecAddress with
  | (.ok status, bus) => (.ok (), { s with engine.codec := some status, rig.bus := some bus })
  | (.error f, bus) =>
    (.error (.codec f.family f.address), trip { s with rig.bus := some bus })

/-- Bring the codec up if that is still to be done and there is a bus to do it over. -/
def prepareCodec : Except StartError Unit × Installed n :=
  match s.codecDue, s.rig.bus with
  | true, some bus => s.setUpCodec bus
  | _, _ => (.ok (), s)

/-- Let the block ask for transfers. -/
def arm : Installed n :=
  { s with rig.peripheral := s.rig.peripheral.armDma s.engine.config.mode s.engine.config.chunk }

/-- Start one lane for the endpoint of the engine. -/
def startLane (d : Direction) : Except StartError Unit × Installed n :=
  match s.rig.transport.dma.start d s.engine.link with
  | (.ok (), dma) => (.ok (), { s with rig.transport.dma := dma })
  | (.error x, dma) => (.error (.dma x.direction), trip { s with rig.transport.dma := dma })

/-- Start lanes until one is refused. -/
def startLanes : List Direction → Installed n → Except StartError Unit × Installed n
  | [], s => (.ok (), s)
  | d :: ds, s =>
    match s.startLane d with
    | (.ok (), s) => startLanes ds s
    | (.error e, s) => (.error e, s)

/-- Let the block run. -/
def run : Installed n :=
  { s with
    rig.peripheral := s.rig.peripheral.enable s.engine.config.mode
    engine.cancelRequested := false }

/-- Start. -/
def start : Except StartError Unit × Installed n :=
  if s.isFaulted then (.error .faulted, s)
  else
    match s.prepareCodec with
    | (.error e, s) => (.error e, s)
    | (.ok (), s) =>
      match startLanes s.directions s.arm with
      | (.error e, s) => (.error e, s)
      | (.ok (), s) => (.ok (), s.run)

/-! ## Stopping -/

/-- Ask every direction to stop after the buffer on its way. -/
def cancel : Installed n :=
  { s with
    rig.transport.dma := s.directions.foldl Dma.cancel s.rig.transport.dma
    engine.cancelRequested := true }

/-- Take the engine off its rig: withdraw the name and shut the block down. Transfers are left to
themselves. -/
def remove : Rig n :=
  let c := s.engine.config
  { s.rig with
    peripheral := s.rig.peripheral.shutDown c.mode c.role c.pinout
    directory := s.rig.directory.remove deviceName }

/-- A transfer of the rig ended. -/
def complete (d : Direction) (x : Transfer) : Option Delivery × Installed n :=
  let (v, transport) := s.rig.transport.complete d x
  (v, { s with rig.transport := transport })

end Installed

end SerialAudio
