import SerialAudio.Dma
import SerialAudio.Stream.Endpoint
/-!
# Transport

A controller and the endpoints that it may call. Endpoints are named by their index, and the
controller's handlers are such names: several lanes, and several engines, may share an endpoint, and
a fault that one of them sees is a fault for all.

A delivery has two halves. The controller says whose turn it is, and then the endpoint is told how
the transfer ended. A lane that does not run has no turn, and no endpoint hears of it.
-/

namespace SerialAudio

/-- A controller with `n` endpoints. -/
structure Transport (n : Nat) where
  /-- The controller. -/
  dma : Dma (Fin n)
  /-- The endpoints. -/
  endpoints : Vector Endpoint n
deriving DecidableEq

namespace Transport

variable {n : Nat} (t : Transport n)

/-- The endpoint of a name. -/
def endpoint (i : Fin n) : Endpoint := t.endpoints[i]

/-- The transport with another endpoint for a name. -/
def setEndpoint (i : Fin n) (e : Endpoint) : Transport n :=
  { t with endpoints := t.endpoints.set i e i.isLt }

/-- Note a fault at an endpoint. -/
def trip (i : Fin n) : Transport n := t.setEndpoint i (t.endpoint i).trip

/-- A transfer ended. Without a turn there is no delivery. -/
def complete (d : Direction) (x : Transfer) : Option Delivery × Transport n :=
  match t.dma.takeTurn d with
  | (none, dma) => (none, { t with dma })
  | (some i, dma) =>
    let (v, e) := (t.endpoint i).complete d x
    (some v, { t with dma }.setEndpoint i e)

/-- The buffer that the controller lends when nobody brings one. -/
def blank : List UInt32 := List.replicate t.dma.slots 0

/-! ## Commands -/

/-- What a test bench may ask of a transport. -/
inductive Command (n : Nat) where
  /-- Start a direction for an endpoint. -/
  | start (d : Direction) (i : Fin n)
  /-- Cancel a direction. -/
  | cancel (d : Direction)
  /-- Refuse the starts of a direction. -/
  | refuse (d : Direction)
  /-- End a transfer with a buffer of zeros. -/
  | complete (d : Direction)
  /-- End a transfer with a given buffer. -/
  | completeWith (d : Direction) (buffer : List UInt32)
  /-- Break a transfer down. -/
  | fail (d : Direction)
  /-- Call the queue behind an endpoint. -/
  | client (i : Fin n) (c : FrameQueue.ClientCall)

/-- What a transport answers. -/
inductive Reply where
  /-- Nothing to say. -/
  | done
  /-- Whether a direction could be started. -/
  | started (r : Except Exhausted Unit)
  /-- What was delivered, if it was anybody's turn. -/
  | delivered (v : Option Delivery)
  /-- How much was delivered, if it was anybody's turn, and the buffer either way. -/
  | returned (produced : Option Nat) (buffer : List UInt32)
  /-- How much a failed transfer delivered, if it was anybody's turn. -/
  | failed (produced : Option Nat)
  /-- The answer of the queue behind an endpoint. -/
  | client (r : FrameQueue.ClientReply)
  /-- There is no queue behind the endpoint. -/
  | noQueue

/-- Do a command. -/
def Command.perform : Command n → Transport n → Reply × Transport n
  | .start d i, t => let (r, dma) := t.dma.start d i; (.started r, { t with dma })
  | .cancel d, t => (.done, { t with dma := t.dma.cancel d })
  | .refuse d, t => (.done, { t with dma := t.dma.refuse d })
  | .complete d, t => let (v, t) := t.complete d (.finished t.blank); (.delivered v, t)
  | .completeWith d buffer, t =>
    let (v, t) := t.complete d (.finished buffer)
    (.returned (v.map (·.produced)) (v.elim buffer (·.buffer)), t)
  | .fail d, t => let (v, t) := t.complete d (.failed []); (.failed (v.map (·.produced)), t)
  | .client i c, t =>
    match (t.endpoint i).client c with
    | none => (.noQueue, t)
    | some (r, e) => (.client r, t.setEndpoint i e)

/-! ## Endpoints by name -/

variable {t} {i j : Fin n} {e : Endpoint}

@[simp] theorem endpoint_setEndpoint_self : (t.setEndpoint i e).endpoint i = e := by
  simp [setEndpoint, endpoint]

theorem endpoint_setEndpoint_of_ne (h : j ≠ i) :
    (t.setEndpoint i e).endpoint j = t.endpoint j := by
  have : (i : Nat) ≠ j := fun he => h (Fin.ext he.symm)
  simp [setEndpoint, endpoint, this]

@[simp] theorem dma_setEndpoint : (t.setEndpoint i e).dma = t.dma := rfl

@[simp] theorem dma_trip : (t.trip i).dma = t.dma := rfl

/-- A delivery is a turn for the controller, whoever hears of it. -/
theorem dma_complete {d : Direction} {x : Transfer} :
    (t.complete d x).2.dma = (t.dma.takeTurn d).2 := by
  rw [complete]
  rcases t.dma.takeTurn d with ⟨_ | i, dma⟩ <;> rfl

theorem isFaulted_trip :
    ((t.trip i).endpoint j).isFaulted = ((t.endpoint j).isFaulted || i == j) := by
  by_cases h : j = i
  · subst h
    simp [trip]
  · have h' : (i == j) = false := beq_eq_false_iff_ne.2 (Ne.symm h)
    rw [trip, endpoint_setEndpoint_of_ne h, h', Bool.or_false]

end Transport

end SerialAudio
