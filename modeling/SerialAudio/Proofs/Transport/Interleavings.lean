import SerialAudio.Proofs.Dma.Lanes
import SerialAudio.Proofs.Stream.Sides
/-!
# Playback and capture do not disturb each other

The lanes of a controller are apart, but whom they call need not be: both may serve one endpoint,
and the program behind it goes on pushing and popping frames while transfers end in either
direction. What becomes of each direction is known without knowing how its commands mesh with those
of the other one.

Every command of a side has the same shape. It moves the lane of its direction, the lane names an
endpoint or nobody, and the endpoint is called; `Move` has these parts, and it does not matter which
of the commands it was. Two moves of different sides meet at most in the endpoint, and there calls
of different sides commute.

Nothing is assumed about the lanes. They may serve one endpoint, two or none, be about to stop or
refuse to start; and the endpoints may have seen any fault.

## Main results

* `exists_move` — a command of a side is a move of its lane
* `perform_commutes` — commands of different sides commute
* `after_of_interleaving` — any interleaving answers and ends as the two sides one after the other
-/

namespace SerialAudio

namespace Transport

variable {n : Nat} {t : Transport n} {d e : Direction}

/-! ## Moves -/

/-- What a command of one side does. -/
structure Move (n : Nat) where
  /-- What becomes of the lane. -/
  next : Lane (Fin n) → Lane (Fin n)
  /-- Whom the lane names. -/
  callee : Lane (Fin n) → Option (Fin n)
  /-- What the endpoint of that name is called with. -/
  call : Endpoint.Call
  /-- What is answered, given the answer of the endpoint if it was called. -/
  answer : Option Endpoint.Reply → Reply

/-- The transport with another lane for a direction. -/
def withLane (t : Transport n) (d : Direction) (l : Lane (Fin n)) : Transport n :=
  { t with dma := t.dma.setLane d l }

/-- Call an endpoint, if there is one to call. -/
def tell (t : Transport n) (call : Endpoint.Call) :
    Option (Fin n) → Option Endpoint.Reply × Transport n
  | none => (none, t)
  | some i =>
    (some (call.perform (t.endpoint i)).1, t.setEndpoint i (call.perform (t.endpoint i)).2)

/-- Do a move of a direction. -/
def move (d : Direction) (m : Move n) (t : Transport n) : Reply × Transport n :=
  (m.answer (t.tell m.call (m.callee (t.dma.lane d))).1,
    (t.tell m.call (m.callee (t.dma.lane d))).2.withLane d (m.next (t.dma.lane d)))

/-- What an endpoint that was called delivers. -/
def delivery? : Option Endpoint.Reply → Option Delivery
  | some (.delivered v) => some v
  | _ => none

/-- What the program is told by an endpoint that it called. -/
def clientReply : Option Endpoint.Reply → Reply
  | some (.client (some r)) => .client r
  | _ => .noQueue

/-- A turn of the lane, for whoever the turn is for. -/
def Move.turn (d : Direction) (x : Transfer) (answer : Option Delivery → Reply) : Move n where
  next l := l.turn.2
  callee l := l.turn.1
  call := .ended d x
  answer r := answer (delivery? r)

/-- **A transfer that ends is a turn of its lane.** -/
theorem move_turn (x : Transfer) (answer : Option Delivery → Reply) :
    t.move d (.turn d x answer) = (answer (t.complete d x).1, (t.complete d x).2) := by
  simp only [move, Move.turn, complete, Dma.takeTurn]
  rcases (t.dma.lane d).turn with ⟨_ | i, l⟩ <;> rfl

@[simp] theorem setEndpoint_endpoint_self {i : Fin n} : t.setEndpoint i (t.endpoint i) = t := by
  simp [setEndpoint, endpoint]

theorem perform_client_eq_tell (i : Fin n) (c : FrameQueue.ClientCall) (t : Transport n) :
    Command.perform (.client i c) t =
      (clientReply (t.tell (.client c) (some i)).1, (t.tell (.client c) (some i)).2) := by
  rcases hc : (t.endpoint i).client c with _ | ⟨r, e⟩
  · simp only [Command.perform, tell, Endpoint.Call.perform, hc, setEndpoint_endpoint_self]
    rfl
  · simp only [Command.perform, tell, Endpoint.Call.perform, hc]
    rfl

/-- **A command of a side is a move of its lane.** -/
theorem exists_move {c : Command n} (h : c.side? = some d) (slots : Nat) :
    ∃ m : Move n, m.call.side = d ∧
      ∀ t : Transport n, t.dma.slots = slots → c.perform t = t.move d m := by
  cases c with
  | start _ _ => cases h
  | cancel _ => cases h
  | refuse d =>
    cases h
    -- nobody is called, so any call of this side will do
    exact ⟨⟨fun l => { l with refusing := true }, fun _ => none, .ended d (.failed []),
      fun _ => .done⟩, rfl, fun _ _ => rfl⟩
  | complete d =>
    cases h
    refine ⟨.turn d (.finished (List.replicate slots 0)) .delivered, rfl, fun t hs => ?_⟩
    rw [move_turn, Command.perform, blank, hs]
  | completeWith d buffer =>
    cases h
    refine ⟨.turn d (.finished buffer) fun v =>
      .returned (v.map (·.produced)) (v.elim buffer (·.buffer)), rfl, fun t _ => ?_⟩
    rw [move_turn, Command.perform]
  | fail d =>
    cases h
    refine ⟨.turn d (.failed []) fun v => .failed (v.map (·.produced)), rfl, fun t _ => ?_⟩
    rw [move_turn, Command.perform]
  | client i c =>
    cases h
    refine ⟨⟨id, fun _ => some i, .client c, clientReply⟩, rfl, fun t _ => ?_⟩
    have still : t.dma.setLane c.side (t.dma.lane c.side) = t.dma := Dma.setLane_lane_self
    have kept : (t.tell (.client c) (some i)).2.withLane c.side (t.dma.lane c.side) = _ :=
      congrArg (fun dma => { (t.tell (.client c) (some i)).2 with dma }) still
    rw [perform_client_eq_tell, move]
    exact congrArg _ kept.symm

/-! ## Moves of different sides -/

theorem setEndpoint_comm {i j : Fin n} {a b : Endpoint} (h : i ≠ j) :
    (t.setEndpoint i a).setEndpoint j b = (t.setEndpoint j b).setEndpoint i a := by
  have : (i : Nat) ≠ j := fun he => h (Fin.ext he)
  simp [setEndpoint, Vector.set_comm _ _ this]

theorem setEndpoint_setEndpoint {i : Fin n} {a b : Endpoint} :
    (t.setEndpoint i a).setEndpoint i b = t.setEndpoint i b := by
  simp [setEndpoint]

/-- Calls that commute on an endpoint commute on the endpoints of a transport, whomever they are
for. -/
theorem tell_commutes {a b : Endpoint.Call} (h : Commutes a.perform b.perform)
    (i j : Option (Fin n)) :
    Commutes (fun t : Transport n => t.tell a i) (fun t => t.tell b j) := by
  intro t
  rcases i with _ | i
  · exact ⟨rfl, rfl, rfl⟩
  rcases j with _ | j
  · exact ⟨rfl, rfl, rfl⟩
  by_cases hij : i = j
  · subst hij
    obtain ⟨first, second, both⟩ := h (t.endpoint i)
    simp only [tell, endpoint_setEndpoint_self, setEndpoint_setEndpoint]
    rw [first, second, both]
    exact ⟨rfl, rfl, rfl⟩
  · simp only [tell, endpoint_setEndpoint_of_ne hij, endpoint_setEndpoint_of_ne (Ne.symm hij)]
    rw [setEndpoint_comm hij]
    exact ⟨trivial, trivial, rfl⟩

theorem tell_withLane (a : Endpoint.Call) (i : Option (Fin n)) (l : Lane (Fin n)) :
    (t.withLane d l).tell a i = ((t.tell a i).1, (t.tell a i).2.withLane d l) := by
  cases i <;> rfl

theorem dma_tell (a : Endpoint.Call) (i : Option (Fin n)) : (t.tell a i).2.dma = t.dma := by
  cases i <;> rfl

theorem withLane_comm {l l' : Lane (Fin n)} (h : d ≠ e) :
    (t.withLane d l).withLane e l' = (t.withLane e l').withLane d l :=
  congrArg (fun dma => { t with dma }) (Dma.setLane_comm h)

theorem lane_move_of_ne {m : Move n} (h : e ≠ d) :
    (t.move d m).2.dma.lane e = t.dma.lane e := by
  have other : (t.move d m).2.dma.lane e = _ := Dma.lane_setLane_of_ne h
  rw [other, dma_tell]

/-- A move after one of the other side: the endpoints are called in turn, and each lane is moved as
if by itself. -/
theorem move_move {m k : Move n} (h : d ≠ e) :
    (t.move e k).2.move d m =
      (m.answer ((t.tell k.call (k.callee (t.dma.lane e))).2.tell m.call
          (m.callee (t.dma.lane d))).1,
        (((t.tell k.call (k.callee (t.dma.lane e))).2.tell m.call
          (m.callee (t.dma.lane d))).2.withLane e (k.next (t.dma.lane e))).withLane d
            (m.next (t.dma.lane d))) := by
  rw [move, lane_move_of_ne h, move]
  dsimp only
  rw [tell_withLane]

/-- **Moves of different sides commute.** -/
theorem move_commutes {m k : Move n} (h : d ≠ e) (hc : Commutes m.call.perform k.call.perform) :
    Commutes (move d m) (move e k) := by
  intro t
  obtain ⟨first, second, both⟩ :=
    tell_commutes hc (m.callee (t.dma.lane d)) (k.callee (t.dma.lane e)) t
  dsimp only at first second both
  rw [move_move h, move_move h.symm, first, second, both, withLane_comm h]
  exact ⟨rfl, rfl, rfl⟩

theorem slots_move {m : Move n} : (t.move d m).2.dma.slots = t.dma.slots := by
  have kept : (t.move d m).2.dma.slots = _ := Dma.slots_setLane
  rw [kept, dma_tell]

/-! ## Commands of different sides -/

variable {c : Command n} {cs first second both : List (Command n)}

/-- **Commands of different sides commute.** -/
theorem perform_commutes {c k : Command n} (hc : c.side? = some .transmit)
    (hk : k.side? = some .receive) : Commutes c.perform k.perform := by
  intro t
  obtain ⟨m, hm, moves⟩ := exists_move hc t.dma.slots
  obtain ⟨m', hm', moves'⟩ := exists_move hk t.dma.slots
  have apart : Direction.transmit ≠ .receive := by decide
  have h := move_commutes apart (Endpoint.Call.commutes hm hm') t
  rw [moves t rfl, moves' t rfl, moves _ slots_move, moves' _ slots_move]
  exact h

/-- A command that commutes with all commands of a list may wait until they are done. -/
theorem transcript_of_commutes (h : ∀ k ∈ cs, Commutes k.perform c.perform) :
    (c.perform t).2.transcript cs = t.transcript cs ∧
      (c.perform t).2.after cs = (c.perform (t.after cs)).2 := by
  induction cs generalizing t with
  | nil => exact ⟨rfl, rfl⟩
  | cons k cs ih =>
    rw [List.forall_mem_cons] at h
    obtain ⟨answer, -, swapped⟩ := h.1 t
    obtain ⟨rest, last⟩ := ih (t := (k.perform t).2) h.2
    rw [transcript_cons, transcript_cons, answer, after_cons, after_cons, swapped, rest, last]
    exact ⟨rfl, rfl⟩

/-- **Playback and capture do not disturb each other.** What the program and the transfers do in the
direction of playback, and what they do in that of capture, may mesh in any way. Every command is
answered as if those of its own direction were the only ones, buffers included, and the lanes, the
endpoints with their queues and counters, and the latches end as if all of the one had come before
all of the other. -/
theorem after_of_interleaving (t : Transport n) {playing capturing both : List (Command n)}
    (plays : ∀ c ∈ playing, c.side? = some .transmit)
    (captures : ∀ c ∈ capturing, c.side? = some .receive)
    (mesh : Interleaving playing capturing both) :
    sideOf .transmit (t.transcript both) = t.transcript playing ∧
      sideOf .receive (t.transcript both) = t.transcript capturing ∧
      t.after both = (t.after playing).after capturing := by
  induction mesh generalizing t with
  | nil => exact ⟨rfl, rfl, rfl⟩
  | @left c playing capturing both _ ih =>
    rw [List.forall_mem_cons] at plays
    obtain ⟨played, captured, ends⟩ := ih (c.perform t).2 plays.2 captures
    -- what is captured does not notice that something was played first
    have unnoticed := transcript_of_commutes (t := t) fun k hk =>
      (perform_commutes plays.1 (captures k hk)).symm
    have apart : c.side? ≠ some .receive := plays.1 ▸ by decide
    rw [transcript_cons, sideOf_cons_of_side plays.1, sideOf_cons_of_ne apart, played, captured,
      unnoticed.1]
    exact ⟨rfl, rfl, ends⟩
  | @right c playing capturing both _ ih =>
    rw [List.forall_mem_cons] at captures
    obtain ⟨played, captured, ends⟩ := ih (c.perform t).2 plays captures.2
    have unnoticed := transcript_of_commutes (t := t) fun k hk =>
      perform_commutes (plays k hk) captures.1
    have apart : c.side? ≠ some .transmit := captures.1 ▸ by decide
    rw [transcript_cons, sideOf_cons_of_side captures.1, sideOf_cons_of_ne apart, played, captured,
      unnoticed.1, after_cons, ends, unnoticed.2]
    exact ⟨rfl, rfl, rfl⟩

/-- Two lanes that serve one queue with room for two frames. The playback lane is about to stop. -/
def shared : Transport 1 where
  dma :=
    { slots := 4
      transmit := { handler := some ⟨0, Nat.one_pos⟩, active := true, cancelling := true }
      receive := { handler := some ⟨0, Nat.one_pos⟩, active := true } }
  endpoints := #v[{ stream := .queue (.empty 2) }]

/-- A frame is pushed and played, while a capture comes in, breaks down and is read. The buffers are
the same as on either side alone, and the lane that was about to stop is idle in the end. -/
theorem after_of_interleaving_shared :
    let push : Command 1 := .client 0 (.push ⟨1, -1⟩)
    let pop : Command 1 := .client 0 .pop
    let both := [.completeWith .receive [5, 6, 7], push, .completeWith .transmit [0, 0, 0],
      .fail .receive, pop, .fail .transmit]
    Interleaving [push, .completeWith .transmit [0, 0, 0], .fail .transmit]
        [.completeWith .receive [5, 6, 7], .fail .receive, pop] both ∧
      sideOf .transmit (shared.transcript both) =
        [(push, .client (.accepted true)),
          (.completeWith .transmit [0, 0, 0], .returned (some 2) [1, 0xFFFFFFFF, 0]),
          (.fail .transmit, .failed none)] ∧
      sideOf .receive (shared.transcript both) =
        [(.completeWith .receive [5, 6, 7], .returned (some 0) [5, 6, 7]),
          (.fail .receive, .failed (some 0)), (pop, .client (.popped (some ⟨5, 6⟩)))] ∧
      (shared.after both).dma.isActive .transmit = false := by
  intro push pop both
  have mesh : Interleaving [push, .completeWith .transmit [0, 0, 0], .fail .transmit]
      [.completeWith .receive [5, 6, 7], .fail .receive, pop] both :=
    .right (.left (.left (.right (.right (.left .nil)))))
  obtain ⟨played, captured, ends⟩ := after_of_interleaving shared
    (by simp [push, Command.side?, FrameQueue.ClientCall.side])
    (by simp [pop, Command.side?, FrameQueue.ClientCall.side]) mesh
  refine ⟨mesh, played.trans rfl, captured.trans rfl, ?_⟩
  rw [ends]
  rfl

end Transport

end SerialAudio
