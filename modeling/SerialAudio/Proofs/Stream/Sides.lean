import SerialAudio.Proofs.Stream.Calls
import SerialAudio.Transport.History
/-!
# The two sides of an endpoint

An endpoint has one stream and one latch for both directions, so playing and capturing do meet in
it. They meet without noticing. A frame queue keeps its rings and its counters apart, a pattern its
counters; and all that a direction ever does to the latch is to trip it, which nobody reads between
two calls.

For a queue this is said once for each side and not once for each pair of calls: a call of one side
does not look at the fields of the other, whatever they hold, and leaves them as they are. Two calls
of different sides then have nothing to disagree about.

## Main results

* `perform_of_transmit`, `perform_of_receive` — a call of a queue does not see the other side
* `Call.commutes` — calls of different sides commute, on a queue and on an endpoint
-/

namespace SerialAudio

/-- Two operations commute: neither changes what the other answers, and their order does not matter
to the state. -/
def Commutes {σ α β : Type} (f : σ → α × σ) (g : σ → β × σ) : Prop :=
  ∀ s, (f (g s).2).1 = (f s).1 ∧ (g (f s).2).1 = (g s).1 ∧ (f (g s).2).2 = (g (f s).2).2

theorem Commutes.symm {σ α β : Type} {f : σ → α × σ} {g : σ → β × σ} (h : Commutes f g) :
    Commutes g f :=
  fun s => ⟨(h s).2.1, (h s).1, (h s).2.2.symm⟩

namespace FrameQueue

/-- The direction that a call is about. -/
def Call.side : Call → Direction
  | .client c => c.side
  | .fill _ => .transmit
  | .consume _ => .receive

variable {q : FrameQueue} {c e : Call}

/-! ## Queues -/

/-- **A call of the playback side does not see the capture side.** -/
theorem perform_of_transmit (h : c.side = .transmit) (capture : List UInt32) (dropped : UInt64) :
    c.perform { q with capture, dropped } =
      ((c.perform q).1, { (c.perform q).2 with capture, dropped }) := by
  rcases c with (f | fs | _) | buffer | buffer
  · by_cases room : q.HasRoom q.playback
    · have same : HasRoom { q with capture, dropped } q.playback := room
      simp only [Call.perform, ClientCall.perform, push_of_hasRoom room, push_of_hasRoom same]
    · have same : ¬HasRoom { q with capture, dropped } q.playback := room
      simp only [Call.perform, ClientCall.perform, push_of_not_hasRoom room,
        push_of_not_hasRoom same]
  · simp only [Call.perform, ClientCall.perform, pushAll_eq]
    rfl
  · cases h
  · rfl
  · cases h

/-- **A call of the capture side does not see the playback side.** -/
theorem perform_of_receive (h : c.side = .receive) (playback : List UInt32) (underruns : UInt64) :
    c.perform { q with playback, underruns } =
      ((c.perform q).1, { (c.perform q).2 with playback, underruns }) := by
  rcases c with (f | fs | _) | buffer | buffer
  · cases h
  · cases h
  · rcases hc : q.capture with _ | ⟨left, _ | ⟨right, rest⟩⟩
    · simp only [Call.perform, ClientCall.perform, pop, hc]
    · simp only [Call.perform, ClientCall.perform, pop, hc]
    · simp only [Call.perform, ClientCall.perform, pop, hc]
  · cases h
  · simp only [Call.perform, consume_eq]
    rfl

theorem frames_perform : (c.perform q).2.frames = q.frames := (call_case q c).frames_eq

/-- What a call of the playback side leaves, field by field. -/
theorem perform_snd_of_transmit (h : c.side = .transmit) :
    (c.perform q).2 =
      { q with playback := (c.perform q).2.playback, underruns := (c.perform q).2.underruns } := by
  have blind := congrArg Prod.snd (perform_of_transmit (q := q) h q.capture q.dropped)
  rw [← frames_perform (q := q) (c := c)]
  exact blind

theorem perform_snd_of_receive (h : c.side = .receive) :
    (c.perform q).2 =
      { q with capture := (c.perform q).2.capture, dropped := (c.perform q).2.dropped } := by
  have blind := congrArg Prod.snd (perform_of_receive (q := q) h q.playback q.underruns)
  rw [← frames_perform (q := q) (c := c)]
  exact blind

/-- **Calls of different sides commute.** -/
theorem Call.commutes (hc : c.side = .transmit) (he : e.side = .receive) :
    Commutes c.perform e.perform := by
  intro q
  have behind : c.perform (e.perform q).2 = _ :=
    (congrArg c.perform (perform_snd_of_receive he)).trans (perform_of_transmit hc _ _)
  have before : e.perform (c.perform q).2 = _ :=
    (congrArg e.perform (perform_snd_of_transmit hc)).trans (perform_of_receive he _ _)
  have frames : (c.perform q).2.frames = (e.perform q).2.frames := by
    rw [frames_perform, frames_perform]
  rw [behind, before]
  dsimp only
  rw [frames]
  exact ⟨rfl, rfl, rfl⟩

end FrameQueue

namespace Endpoint

/-! ## Endpoints -/

/-- What an endpoint is told by a lane, or asked by the program. -/
inductive Call where
  /-- A transfer ended. -/
  | ended (d : Direction) (x : Transfer)
  /-- The program calls the queue. -/
  | client (c : FrameQueue.ClientCall)

/-- What an endpoint answers. -/
inductive Reply where
  /-- What is delivered. -/
  | delivered (v : Delivery)
  /-- The answer to the program, if there is a queue. -/
  | client (r : Option FrameQueue.ClientReply)

/-- The direction that a call is about. -/
def Call.side : Call → Direction
  | .ended d _ => d
  | .client c => c.side

/-- Answer a call. -/
def Call.perform : Call → Endpoint → Reply × Endpoint
  | .ended d x, e => let (v, e) := e.complete d x; (.delivered v, e)
  | .client c, e =>
    match e.client c with
    | none => (.client none, e)
    | some (r, e) => (.client (some r), e)

variable {a b : Call}

/-- Nobody reads the latch. -/
theorem Call.perform_trip (a : Call) (e : Endpoint) :
    a.perform e.trip = ((a.perform e).1, (a.perform e).2.trip) := by
  obtain ⟨latch, q | s⟩ := e <;> rcases a with ⟨_ | _, _ | _⟩ | c <;> rfl

/-- What an endpoint makes of the answer of its queue. A captured buffer is given back. -/
def Reply.ofQueue (captured : List UInt32) : FrameQueue.Reply → Reply
  | .client r => .client (some r)
  | .filled v => .delivered v
  | .consumed => .delivered (.untouched captured)

/-- A transfer that broke down trips the latch, and any other call of an endpoint with a queue is a
call of that queue. -/
theorem Call.trips_or_asks (a : Call) :
    (∃ r, ∀ e, a.perform e = (r, e.trip)) ∨
      ∃ (c : FrameQueue.Call) (k : FrameQueue.Reply → Reply), c.side = a.side ∧
        ∀ latch q, a.perform ⟨latch, .queue q⟩ =
          (k (c.perform q).1, ⟨latch, .queue (c.perform q).2⟩) := by
  rcases a with ⟨_ | _, buffer | buffer⟩ | c
  · exact .inr ⟨.fill buffer, Reply.ofQueue [], rfl, fun _ _ => rfl⟩
  · exact .inl ⟨_, fun _ => rfl⟩
  · exact .inr ⟨.consume buffer, Reply.ofQueue buffer, rfl, fun _ _ => rfl⟩
  · exact .inl ⟨_, fun _ => rfl⟩
  · exact .inr ⟨.client c, Reply.ofQueue [], rfl, fun _ _ => rfl⟩

/-- **Calls of different sides commute.** -/
theorem Call.commutes (ha : a.side = .transmit) (hb : b.side = .receive) :
    Commutes a.perform b.perform := by
  intro e
  obtain ⟨r, trips⟩ | ⟨c, k, hc, asks⟩ := a.trips_or_asks
  · rw [trips, trips, b.perform_trip]
    exact ⟨rfl, rfl, rfl⟩
  obtain ⟨r, trips⟩ | ⟨c', k', hc', asks'⟩ := b.trips_or_asks
  · rw [trips, trips, a.perform_trip]
    exact ⟨rfl, rfl, rfl⟩
  obtain ⟨latch, q | s⟩ := e
  · have h := FrameQueue.Call.commutes (hc.trans ha) (hc'.trans hb) q
    rw [asks, asks', asks, asks']
    exact ⟨congrArg k h.1, congrArg k' h.2.1, congrArg (Endpoint.mk latch ∘ .queue) h.2.2⟩
  · -- only the count of captured slots depends on what is counted first, and one side counts it
    rcases a with ⟨_ | _, _ | _⟩ | c <;> rcases b with ⟨_ | _, _ | _⟩ | c' <;>
      first | exact ⟨rfl, rfl, rfl⟩ | cases ha

end Endpoint

end SerialAudio
