import SerialAudio.Engine.Life
import SerialAudio.Proofs.Engine.Faults
/-!
# What reaches an endpoint

A turn is given out by the controller, and the endpoint is told by whoever is registered with the
lane. On a controller that an engine has for itself that is the endpoint of the engine or nobody, so
no delivery is lost on the way, none is made twice and none goes elsewhere.

The endpoint therefore follows from the transcript alone: it heard exactly the acts that were
answered, once each and in order, and what was answered is what it said. This goes on when the
engine is removed. Whatever is to be said of a stream or of a latch along a life is then said of a
list, and the engine, the rig and the controller are out of it.

## Main results

* `Installed.hears_after`, `Rig.hears_after` — the endpoint heard the transcript
* `hears_life` — and it goes on hearing when the engine is gone
* `deliveries_counted` — what a pattern stream saw of a life, and what it answered
-/

namespace SerialAudio

/-! ## Transfers that end -/

namespace Transport

variable {n : Nat} {t : Transport n} {i : Fin n}

/-- **Of a transfer that ends is heard if it was somebody's turn.** The act stands for the transfer:
the endpoint makes of the one what it makes of the other. -/
theorem Serves.hears_complete {a : Act} (own : t.Serves i) (d : Direction) (x : Transfer)
    (told : ∀ e v, Endpoint.hear e (a, .delivered (some v)) = (e.complete d x).2)
    (untold : ∀ e, Endpoint.hear e (a, .delivered none) = e)
    (asked : ∀ e : Endpoint, e.answer? a = some (e.complete d x).1) :
    (t.endpoint i).Hears [(a, .delivered (t.complete d x).1)]
      ((t.complete d x).2.endpoint i) := by
  rcases own.complete_or d x with nobody | ⟨answer, heard⟩
  · have silent : (t.endpoint i).Hears [(a, .delivered none)] _ := .single nofun
    rw [untold] at silent
    rw [nobody]
    exact silent
  · have spoken : (t.endpoint i).Hears [(a, .delivered (some ((t.endpoint i).complete d x).1))] _ :=
      .single fun v hv => (asked _).trans (Outcome.delivered.inj hv)
    rw [told] at spoken
    rw [answer, heard]
    exact spoken

theorem Serves.hears_finish (own : t.Serves i) (d : Direction) (buffer : List UInt32) :
    (t.endpoint i).Hears [(.finish d buffer, .delivered (t.complete d (.finished buffer)).1)]
      ((t.complete d (.finished buffer)).2.endpoint i) :=
  own.hears_complete d _ (fun _ _ => rfl) (fun _ => rfl) fun _ => rfl

theorem Serves.hears_fail (own : t.Serves i) (d : Direction) :
    (t.endpoint i).Hears [(.fail d, .delivered (t.complete d (.failed [])).1)]
      ((t.complete d (.failed [])).2.endpoint i) :=
  own.hears_complete d _ (fun _ _ => rfl) (fun _ => rfl) fun _ => rfl

end Transport

/-! ## Rigs without an engine -/

namespace Rig

variable {n : Nat} {rig : Rig n} {i : Fin n} {a : Act} {acts : List Act}

theorem serves_step (own : rig.transport.Serves i) : (rig.step a).2.transport.Serves i := by
  cases a with
  | start | cancel => exact own
  | refuse d => exact own.refuse
  | finish d buffer => exact own.complete
  | fail d => exact own.complete

theorem serves_after (own : rig.transport.Serves i) : (rig.after acts).transport.Serves i := by
  induction acts generalizing rig with
  | nil => exact own
  | cons a acts ih => exact ih (serves_step own)

theorem hears_step (own : rig.transport.Serves i) (a : Act) :
    (rig.transport.endpoint i).Hears [(a, (rig.step a).1)]
      ((rig.step a).2.transport.endpoint i) := by
  cases a with
  | start | cancel | refuse => exact .single nofun
  | finish d buffer => exact own.hears_finish d buffer
  | fail d => exact own.hears_fail d

/-- **The endpoint of a rig without its engine hears the transcript.** -/
theorem hears_after (own : rig.transport.Serves i) (acts : List Act) :
    (rig.transport.endpoint i).Hears (rig.transcript acts)
      ((rig.after acts).transport.endpoint i) := by
  induction acts generalizing rig with
  | nil => exact .nil
  | cons a acts ih => exact (hears_step own a).append (ih (serves_step own))

end Rig

/-! ## Engines -/

namespace Installed

variable {n : Nat} {s : Installed n}

theorem endpoint_trip : s.trip.endpoint = s.endpoint.trip := Transport.endpoint_setEndpoint_self

/-- A start has something to say to the endpoint if it failed, and it says it itself. -/
theorem endpoint_start : s.start.2.endpoint = s.endpoint.hear (.start, .started s.start.1) := by
  have ending := start_case s
  generalize s.start.1 = r, s.start.2 = t at ending ⊢
  cases ending with
  | faulted _ => rfl
  | codec _ _ => exact endpoint_trip
  | lane _ _ _ => exact endpoint_trip
  | ok _ _ _ => rfl

theorem hears_step (own : s.Served) (a : Act) :
    s.endpoint.Hears [(a, (s.step a).1)] (s.step a).2.endpoint := by
  cases a with
  | start =>
    show s.endpoint.Hears _ s.start.2.endpoint
    rw [endpoint_start]
    exact .single nofun
  | cancel | refuse => exact .single nofun
  | finish d buffer => exact Transport.Serves.hears_finish own d buffer
  | fail d => exact Transport.Serves.hears_fail own d

/-- **The endpoint of an engine hears the transcript.** -/
theorem hears_after (own : s.Served) (acts : List Act) :
    s.endpoint.Hears (s.transcript acts) (s.after acts).endpoint := by
  induction acts generalizing s with
  | nil => exact .nil
  | cons a acts ih => exact (hears_step own a).append (ih own.step)

/-- **What an endpoint hears of a life**, as long as the engine is there and after it was
removed. -/
theorem hears_life (own : s.Served) (acts later : List Act) :
    let gone := (s.after acts).remove
    s.endpoint.Hears (s.transcript acts) (s.after acts).endpoint ∧
      s.endpoint.Hears (s.transcript acts ++ gone.transcript later)
        ((gone.after later).transport.endpoint s.engine.link) := by
  intro gone
  have alive := hears_after own acts
  have rest : (gone.transport.endpoint s.engine.link).Hears _ _ := Rig.hears_after own.remove later
  have here : gone.transport.endpoint s.engine.link = (s.after acts).endpoint := by
    rw [endpoint, link_after]
    rfl
  rw [here] at rest
  exact ⟨alive, alive.append rest⟩

end Installed

/-! ## Pattern streams -/

/-- What a pattern stream answers a transfer with. The pattern and the limit decide it, and nothing
that is counted. -/
def PatternStream.Answers (s : PatternStream) : Act → Delivery → Prop
  | .finish .transmit buffer, v =>
    v = .overlay (List.replicate (s.share buffer.length) s.pattern) buffer
  | .finish .receive buffer, v => v = .untouched buffer
  | .fail _, v => v = .untouched []
  | _, _ => False

section

variable {e e' : Endpoint} {a : Act} {v : Delivery} {transcript : List (Act × Outcome)}
  {recorder : PatternStream} {calls : List SampleStream.Call}

theorem PatternStream.answers_of_counting (h : (recorder.counting calls).Answers a v) :
    recorder.Answers a v := by
  cases a with
  | finish d buffer => cases d <;> exact h
  | start | cancel | refuse | fail => exact h

theorem Endpoint.answers_of_answer? (playing : e.stream = .pattern recorder)
    (h : e.answer? a = some v) : recorder.Answers a v := by
  cases a with
  | start | cancel | refuse => cases h
  | finish d buffer =>
    obtain rfl := Option.some.inj h
    cases d with
    | transmit =>
      rw [complete, transmitDone, playing]
      rfl
    | receive => rfl
  | fail d =>
    obtain rfl := Option.some.inj h
    rw [complete_failed]
    rfl

theorem Endpoint.Hears.stream_pattern (heard : e.Hears transcript e')
    (playing : e.stream = .pattern recorder) :
    e'.stream = .pattern (recorder.counting (Act.callsOf transcript)) := by
  rw [heard.stream_eq, playing, PatternStream.afterCalls_pattern]

/-- **Every delivery is an answer of the pattern.** -/
theorem Endpoint.Hears.answers (heard : e.Hears transcript e')
    (playing : e.stream = .pattern recorder)
    (h : (a, .delivered (some v)) ∈ transcript) : recorder.Answers a v := by
  induction heard generalizing recorder with
  | nil => cases h
  | cons answer rest ih =>
    rcases List.mem_cons.mp h with first | later
    · cases first
      exact answers_of_answer? playing (answer v rfl)
    · have still := (Hears.single answer).stream_pattern playing
      exact PatternStream.answers_of_counting (ih still later)

end

namespace Installed

variable {n : Nat} {rig rig' : Rig n} {config : Config} {link : Fin n} {wired : Bool}
  {engine : Engine n} {recorder : PatternStream}

/-- **Every delivery reaches the stream once, and in its direction.** The stream of an engine with
a controller of its own has counted, besides what it had counted before, the playback buffers and
the captured slots that were delivered by transfers that ended well, and this is so at any time,
also after the engine was removed. A playback buffer comes back with the pattern written over its
beginning, as far as the limit goes, and a captured one comes back as it was. A transfer that breaks
down delivers nothing, and the stream is what it was. -/
theorem deliveries_counted (built : rig.install config link wired = (.ok engine, rig'))
    (own : rig.transport.Serves link)
    (playing : (rig.transport.endpoint link).stream = .pattern recorder) (acts later : List Act) :
    let s : Installed n := ⟨engine, rig'⟩
    let living := s.after acts
    let gone := living.remove
    let left := gone.after later
    let life := s.transcript acts
    let whole := life ++ gone.transcript later
    living.endpoint.stream = .pattern
        { recorder with
          fills := recorder.fills + UInt64.ofNat (PatternStream.fillsAmong (Act.callsOf life))
          consumed :=
            recorder.consumed + UInt64.ofNat (PatternStream.slotsAmong (Act.callsOf life)) } ∧
      (left.transport.endpoint link).stream = .pattern
        { recorder with
          fills := recorder.fills + UInt64.ofNat (PatternStream.fillsAmong (Act.callsOf whole))
          consumed :=
            recorder.consumed + UInt64.ofNat (PatternStream.slotsAmong (Act.callsOf whole)) } ∧
      (∀ buffer v, (.finish .transmit buffer, .delivered (some v)) ∈ whole →
        v.produced = recorder.limit.elim buffer.length (min · buffer.length) ∧
          v.buffer = List.replicate v.produced recorder.pattern ++ buffer.drop v.produced) ∧
      (∀ buffer v, (.finish .receive buffer, .delivered (some v)) ∈ whole →
        v.produced = 0 ∧ v.buffer = buffer) ∧
      (∀ d v, (.fail d, .delivered (some v)) ∈ whole → v.produced = 0) ∧
      ∀ d, (living.step (.fail d)).2.endpoint.stream = living.endpoint.stream ∧
        ((left.step (.fail d)).2.transport.endpoint link).stream =
          (left.transport.endpoint link).stream := by
  intro s living gone left life whole
  have served : s.Served := served_of_install_eq_ok built own
  have begun : s.endpoint = rig.transport.endpoint link := endpoint_of_install_eq_ok built
  have hlink : s.engine.link = link := congrArg Engine.link (of_install_eq_ok built).1
  obtain ⟨alive, (entire : Endpoint.Hears _ whole _)⟩ := hears_life served acts later
  have serving : left.transport.Serves s.engine.link := Rig.serves_after served.remove
  rw [begun] at alive entire
  rw [hlink] at entire serving
  refine ⟨alive.stream_pattern playing, entire.stream_pattern playing, fun buffer v h => ?_,
    fun buffer v h => ?_, fun d v h => ?_, fun d => ⟨?_, ?_⟩⟩
  · obtain rfl : v = .overlay _ buffer := entire.answers playing h
    rw [Delivery.produced_overlay, Delivery.overlay, List.length_replicate]
    exact ⟨rfl, rfl⟩
  · obtain rfl : v = .untouched buffer := entire.answers playing h
    exact ⟨rfl, rfl⟩
  · obtain rfl : v = .untouched [] := entire.answers playing h
    rfl
  · exact (hears_step served.after (.fail d)).stream_eq
  · exact (Rig.hears_step serving (.fail d)).stream_eq

/-- A rig for a stream that plays sevens, two slots of a buffer at most. -/
def limitedRig : Rig 1 :=
  { Rig.bare none with
    transport :=
      { dma := { slots := 4 }
        endpoints := #v[{ stream := .pattern { pattern := 7, limit := some 2 } }] } }

/-- A duplex engine on it. -/
def limited : Installed 1 :=
  { alone .duplex .probe none with
    rig := { (alone .duplex .probe none).rig with transport := limitedRig.transport } }

/-- It is cancelled in the middle of both directions and then removed. The transfer that breaks down
is the last one of its direction, and the other direction has one more. -/
theorem deliveries_counted_drained :
    let acts : List Act := [.start, .finish .transmit [0, 0, 0], .finish .receive [5, 6], .cancel,
      .fail .transmit]
    let later : List Act := [.finish .receive [8], .finish .receive [9], .finish .transmit [1]]
    let left := (limited.after acts).remove.after later
    limitedRig.install limited.engine.config 0 true = (.ok limited.engine, limited.rig) ∧
      limitedRig.transport.Serves 0 ∧
      (left.transport.endpoint 0).stream =
        .pattern { pattern := 7, limit := some 2, fills := 1, consumed := 3 } := by
  intro acts later left
  have built : limitedRig.install limited.engine.config 0 true =
      (.ok limited.engine, limited.rig) := install_of_following rfl
  have own : limitedRig.transport.Serves 0 :=
    Transport.serves_of_idle fun d => by cases d <;> exact ⟨rfl, rfl, rfl⟩
  have asked : Act.callsOf (limited.transcript acts ++
      (limited.after acts).remove.transcript later) =
    [⟨.transmit, [0, 0, 0]⟩, ⟨.receive, [5, 6]⟩, ⟨.receive, [8]⟩] := rfl
  refine ⟨built, own, (deliveries_counted built own rfl acts later).2.1.trans ?_⟩
  rw [asked]
  rfl

end Installed

end SerialAudio
