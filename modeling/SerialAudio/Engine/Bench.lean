import SerialAudio.Engine.Basic
/-!
# The bench

A bench is a rig with places for engines. It is how a scenario is told: build an engine here, let a
transfer end there, look at everything in between. The engines of a bench know nothing of each other
and share everything else.
-/

namespace SerialAudio

/-- A rig with `k` places for engines. -/
structure Bench (n k : Nat) where
  /-- What the engines work on. -/
  rig : Rig n
  /-- The engines in their places. -/
  places : Vector (Option (Engine n)) k

namespace Bench

variable {n k : Nat}

/-- A bench without engines. -/
def empty (rig : Rig n) : Bench n k := ⟨rig, Vector.replicate k none⟩

/-- What may be known about an engine. -/
structure Description where
  /-- What was asked for. -/
  config : Config
  /-- How samples lie in their slots. -/
  format : SampleFormat
  /-- The least sample. -/
  least : Int32
  /-- The greatest sample. -/
  greatest : Int32
  /-- Its endpoint. -/
  endpoint : Endpoint

/-- What an engine shows of itself at any time. -/
structure Reading where
  /-- Where it is in its life. -/
  phase : Phase
  /-- Whether a direction of it runs. -/
  active : Bool
  /-- Whether a fault was seen. -/
  faulted : Bool
  /-- What came of bringing the codec up. -/
  codec : Option Codec.Status

/-- Describe an engine on its rig. -/
def describe (s : Installed n) : Description :=
  ⟨s.engine.config, .signed24In32, Sample.least, Sample.greatest, s.endpoint⟩

/-- Read an engine off its rig. -/
def readOff (s : Installed n) : Reading := ⟨s.phase, s.isActive, s.isFaulted, s.engine.codec⟩

/-- What every place shows. -/
def readings (b : Bench n k) : List (Option Reading) :=
  b.places.toList.map fun e => e.map fun e => readOff ⟨e, b.rig⟩

/-- Do something to the transport of the rig. -/
def onTransport {α : Type} (b : Bench n k) (f : Transport n → α × Transport n) :
    α × Bench n k :=
  let (a, transport) := f b.rig.transport
  (a, { b with rig.transport := transport })

/-- What a scenario may ask of a bench. -/
inductive Command (n k : Nat) where
  /-- Do something to the transport. -/
  | transport (c : Transport.Command n)
  /-- Set a register behind the back of the log. -/
  | preload (r : Register) (v : UInt32)
  /-- Build an engine in a place. -/
  | install (place : Fin k) (request : Config.Request) (link : Fin n) (wired : Bool)
  /-- Start the engine of a place. -/
  | start (place : Fin k)
  /-- Cancel the engine of a place. -/
  | cancel (place : Fin k)
  /-- Remove the engine of a place. -/
  | remove (place : Fin k)
  /-- Describe the engine of a place. -/
  | describe (place : Fin k)

/-- What a bench answers. -/
inductive Reply where
  /-- Nothing to say. -/
  | done
  /-- The answer of the transport. -/
  | transport (r : Transport.Reply)
  /-- There is an engine in that place. -/
  | placeInUse
  /-- There is no engine in that place. -/
  | noEngine
  /-- The request makes no configuration. -/
  | misconfigured (e : ConfigError)
  /-- Whether the engine could be built. -/
  | built (r : Except BuildError Unit)
  /-- Whether the engine started. -/
  | started (r : Except StartError Unit)
  /-- What is known about the engine. -/
  | described (d : Description)

/-- The engine in a place. -/
def engine? (b : Bench n k) (place : Fin k) : Option (Engine n) := b.places.get place

/-- The bench with another rig, and with an engine or nothing in a place. -/
def put (b : Bench n k) (place : Fin k) (engine : Option (Engine n)) (rig : Rig n) : Bench n k :=
  ⟨rig, b.places.set place engine place.isLt⟩

/-- Build an engine in a place that is free. -/
def install (b : Bench n k) (place : Fin k) (request : Config.Request) (link : Fin n)
    (wired : Bool) : Reply × Bench n k :=
  match b.engine? place with
  | some _ => (.placeInUse, b)
  | none =>
    match request.resolve with
    | .error e => (.misconfigured e, b)
    | .ok config =>
      match b.rig.install config link wired with
      | (.error e, rig) => (.built (.error e), { b with rig })
      | (.ok engine, rig) => (.built (.ok ()), b.put place engine rig)

/-- Do something with the engine of a place, if there is one. -/
def withEngine (b : Bench n k) (place : Fin k) (f : Installed n → Reply × Bench n k) :
    Reply × Bench n k :=
  match b.engine? place with
  | none => (.noEngine, b)
  | some e => f ⟨e, b.rig⟩

/-- Do a command. -/
def Command.perform : Command n k → Bench n k → Reply × Bench n k
  | .transport c, b => let (r, b) := b.onTransport c.perform; (.transport r, b)
  | .preload r v, b => (.done, { b with rig.peripheral := b.rig.peripheral.preload r v })
  | .install place request link wired, b => b.install place request link wired
  | .start place, b => b.withEngine place fun s =>
    let (r, s) := s.start
    (.started r, b.put place s.engine s.rig)
  | .cancel place, b => b.withEngine place fun s =>
    (.done, b.put place s.cancel.engine s.cancel.rig)
  | .remove place, b => b.withEngine place fun s => (.done, b.put place none s.remove)
  | .describe place, b => b.withEngine place fun s => (.described (Bench.describe s), b)

end Bench

end SerialAudio
