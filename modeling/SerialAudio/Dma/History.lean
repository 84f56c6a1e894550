import SerialAudio.Dma
import SerialAudio.Stream.Endpoint
/-!
# Requests to a controller

A controller is asked for starts, cancels and refusals, and it is told when a transfer ends. Whom it
calls then is its own business; what the handler does with the call is not. So the handlers are a
parameter, and they may do whatever they like to a world that the controller does not see.

A handler that asks something of the controller while it is called does so after its turn was taken.
What it asks is a request like any other, and it comes next in the history.
-/

namespace SerialAudio

/-- Handlers that live in a world. -/
structure Handlers (η ω : Type) where
  /-- What a handler makes of a transfer that ended, and of the world. -/
  notify : η → Direction → Transfer → ω → Delivery × ω

namespace Dma

variable {η ω : Type}

/-- A controller with the world of its handlers. -/
structure Site (η ω : Type) where
  /-- The controller. -/
  dma : Dma η
  /-- Where its handlers live. -/
  world : ω

/-- What may be asked of a controller. -/
inductive Request (η : Type) where
  /-- Start a direction for a handler. -/
  | start (d : Direction) (h : η)
  /-- Cancel a direction. -/
  | cancel (d : Direction)
  /-- Refuse the starts of a direction. -/
  | refuse (d : Direction)
  /-- End a transfer with a buffer of zeros. -/
  | complete (d : Direction)
  /-- End a transfer with a given buffer. -/
  | completeWith (d : Direction) (buffer : List UInt32)
  /-- Break a transfer down. -/
  | fail (d : Direction)
deriving DecidableEq

/-- What a controller answers. -/
inductive Reply where
  /-- Nothing to say. -/
  | done
  /-- Whether a direction could be started. -/
  | started (r : Except Exhausted Unit)
  /-- What was delivered, if it was anybody's turn. -/
  | ended (v : Option Delivery)

namespace Site

/-- A controller that was never asked for anything. -/
def fresh (slots : Nat) (world : ω) : Site η ω := ⟨{ slots }, world⟩

variable (s : Site η ω) (hs : Handlers η ω)

/-- A transfer ended. Whoever has the turn is told. -/
def deliver (d : Direction) (x : Transfer) : Option Delivery × Site η ω :=
  match s.dma.takeTurn d with
  | (none, dma) => (none, { s with dma })
  | (some h, dma) =>
    let (v, world) := hs.notify h d x s.world
    (some v, ⟨dma, world⟩)

end Site

namespace Request

/-- Do a request. -/
def perform (hs : Handlers η ω) : Request η → Site η ω → Reply × Site η ω
  | .start d h, s => let (r, dma) := s.dma.start d h; (.started r, { s with dma })
  | .cancel d, s => (.done, { s with dma := s.dma.cancel d })
  | .refuse d, s => (.done, { s with dma := s.dma.refuse d })
  | .complete d, s =>
    let (v, s) := s.deliver hs d (.finished (List.replicate s.dma.slots 0)); (.ended v, s)
  | .completeWith d buffer, s => let (v, s) := s.deliver hs d (.finished buffer); (.ended v, s)
  | .fail d, s => let (v, s) := s.deliver hs d (.failed []); (.ended v, s)

/-- The direction that a request is about. -/
def direction : Request η → Direction
  | .start d _ => d
  | .cancel d => d
  | .refuse d => d
  | .complete d => d
  | .completeWith d _ => d
  | .fail d => d

/-- Whether a request is the end of a transfer. -/
def ends : Request η → Bool
  | .complete _ => true
  | .completeWith _ _ => true
  | .fail _ => true
  | _ => false

/-- The direction that is asked to start. -/
def starts? : Request η → Option Direction
  | .start d _ => some d
  | _ => none

/-- The direction that is asked to stop. -/
def cancels? : Request η → Option Direction
  | .cancel d => some d
  | _ => none

end Request

/-- For whom a direction was started, if a start of it was asked for and not refused. -/
def accepted? (d : Direction) : Request η × Reply → Option η
  | (.start e h, .started (.ok ())) => if e = d then some h else none
  | _ => none

/-- For whom a direction was started last. -/
def lastAccepted (d : Direction) (entries : List (Request η × Reply)) : Option η :=
  entries.reverse.findSome? (accepted? d)

namespace Site

variable (s : Site η ω) (hs : Handlers η ω)

/-- The controller and the world after requests. -/
def after (rs : List (Request η)) : Site η ω := rs.foldl (fun s r => (r.perform hs s).2) s

/-- Requests with their answers. -/
def transcript (s : Site η ω) : List (Request η) → List (Request η × Reply)
  | [] => []
  | r :: rs => (r, (r.perform hs s).1) :: (r.perform hs s).2.transcript rs

variable {s hs} {r : Request η} {rs more : List (Request η)}

@[simp] theorem after_nil : s.after hs [] = s := rfl

@[simp] theorem after_cons : s.after hs (r :: rs) = (r.perform hs s).2.after hs rs := rfl

@[simp] theorem after_append : s.after hs (rs ++ more) = (s.after hs rs).after hs more :=
  List.foldl_append

@[simp] theorem transcript_nil : s.transcript hs [] = [] := rfl

@[simp] theorem transcript_cons : s.transcript hs (r :: rs) =
    (r, (r.perform hs s).1) :: (r.perform hs s).2.transcript hs rs := rfl

end Site

end Dma

end SerialAudio
