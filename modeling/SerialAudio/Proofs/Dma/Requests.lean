import SerialAudio.Dma.History
import SerialAudio.Proofs.Dma.Lanes
import SerialAudio.Transport
/-!
# What a controller makes of requests

Whatever is asked of a controller is about one lane, and what becomes of the lane is known from the
request and the lane. `Request.move` is that, and `lane_perform` is the one equation from which the
lanes along a history are computed. The handlers do not occur in it: a controller calls them, and
takes nothing from what they answer.

Four flags make a lane, and each request writes some of them. They agree all the same. `Lane.Tidy`
says how, every move keeps it, and it is what makes the turns reliable: a lane that runs has
somebody to call, so that a transfer that ends in its direction is delivered, and a lane that is
idle has nobody.

## Main results

* `lane_perform`, `starts_perform`, `cancels_perform` — one equation for each part of a controller
* `tidy_after` — the flags of a lane agree
* `handler_after` — a lane serves whoever it was started for last
* `lanes_after` — what holds of every controller along every history
* `Transport.perform_ofRequest` — endpoints are handlers
-/

namespace SerialAudio

namespace Dma

variable {η ω : Type} {hs : Handlers η ω} {s : Site η ω} {r : Request η} {rs : List (Request η)}
  {d e : Direction} {x : Transfer} {h : η}

/-! ## One request -/

/-- What a request makes of the lane that it is about. -/
def Request.move : Request η → Lane η → Lane η
  | .start _ h, l => l.start h
  | .cancel _, l => l.requestCancel
  | .refuse _, l => { l with refusing := true }
  | .complete _, l => l.turn.2
  | .completeWith _ _, l => l.turn.2
  | .fail _, l => l.turn.2

/-- The handler that is told has no part in what becomes of the controller. -/
theorem dma_deliver : (s.deliver hs d x).2.dma = (s.dma.takeTurn d).2 := by
  rw [Site.deliver]
  rcases s.dma.takeTurn d with ⟨_ | h, dma⟩ <;> rfl

theorem isSome_deliver : (s.deliver hs d x).1.isSome = (s.dma.takeTurn d).1.isSome := by
  rw [Site.deliver]
  rcases s.dma.takeTurn d with ⟨_ | h, dma⟩ <;> rfl

/-- **A request moves the lane that it is about, and no other.** -/
theorem lane_perform : (r.perform hs s).2.dma.lane d =
    if d = r.direction then r.move (s.dma.lane d) else s.dma.lane d := by
  cases r with
  | start e h => exact lane_start
  | cancel e => exact lane_cancel
  | refuse e => exact lane_refuse
  | complete | completeWith | fail =>
    exact (congrArg (lane · d) dma_deliver).trans lane_takeTurn

theorem lane_perform_of_ne (ne : d ≠ r.direction) :
    (r.perform hs s).2.dma.lane d = s.dma.lane d := by
  rw [lane_perform, if_neg ne]

/-- **Every start is recorded, refused ones included.** -/
theorem starts_perform :
    (r.perform hs s).2.dma.starts = s.dma.starts ++ r.starts?.toList := by
  cases r with
  | start e h => exact starts_start
  | cancel e => exact starts_cancel.trans (List.append_nil _).symm
  | refuse e => exact starts_setLane.trans (List.append_nil _).symm
  | complete | completeWith | fail =>
    exact (congrArg starts dma_deliver).trans (starts_takeTurn.trans (List.append_nil _).symm)

/-- **Every cancel is recorded, whether anything runs or not.** -/
theorem cancels_perform :
    (r.perform hs s).2.dma.cancels = s.dma.cancels ++ r.cancels?.toList := by
  cases r with
  | start e h => exact cancels_start.trans (List.append_nil _).symm
  | cancel e => exact cancels_cancel
  | refuse e => exact cancels_setLane.trans (List.append_nil _).symm
  | complete | completeWith | fail =>
    exact (congrArg cancels dma_deliver).trans (cancels_takeTurn.trans (List.append_nil _).symm)

/-- A transfer that ends is answered with what is delivered. -/
theorem exists_ended_of_ends (hs : Handlers η ω) (s : Site η ω) (ends : r.ends = true) :
    ∃ v, (r.perform hs s).1 = .ended v ∧ v.isSome = (s.dma.takeTurn r.direction).1.isSome := by
  cases r with
  | start | cancel | refuse => cases ends
  | complete | completeWith | fail => exact ⟨_, rfl, isSome_deliver⟩

/-- A start that is refused is entered in the record, and that is all. -/
theorem perform_of_refused {why : Exhausted}
    (refused : ((Request.start d h).perform hs s).1 = .started (.error why)) :
    ((Request.start d h).perform hs s).2 =
      { s with dma := { s.dma with starts := s.dma.starts ++ [d] } } := by
  have answer : (s.dma.start d h).1 = .error why := Reply.started.inj refused
  show ({ s with dma := (s.dma.start d h).2 } : Site η ω) = _
  rw [start] at answer ⊢
  split
  · rfl
  · rename_i accepted
    rw [if_neg accepted] at answer
    cases answer

/-! ## The flags of a lane -/

theorem tidy_move {l : Lane η} (hl : l.Tidy) : (r.move l).Tidy := by
  cases r with
  | start e h => exact hl.start
  | cancel e => exact hl.requestCancel
  | refuse e => exact hl.refuse
  | complete | completeWith | fail => exact hl.turn

theorem tidy_perform (tidy : ∀ d, (s.dma.lane d).Tidy) (d : Direction) :
    ((r.perform hs s).2.dma.lane d).Tidy := by
  rw [lane_perform]
  split
  · exact tidy_move (tidy d)
  · exact tidy d

theorem tidy_after (tidy : ∀ d, (s.dma.lane d).Tidy) (d : Direction) :
    ((s.after hs rs).dma.lane d).Tidy := by
  induction rs generalizing s with
  | nil => exact tidy d
  | cons r rs ih => exact ih (tidy_perform tidy)

/-- A turn of a lane whose flags agree is somebody's exactly if the lane runs. -/
theorem isSome_takeTurn (tidy : (s.dma.lane d).Tidy) :
    (s.dma.takeTurn d).1.isSome = s.dma.isActive d := by
  show (s.dma.lane d).turn.1.isSome = (s.dma.lane d).active
  cases active : (s.dma.lane d).active with
  | false => rw [Lane.turn_of_not_active active, Option.isSome_none]
  | true =>
    obtain ⟨h, -, turn⟩ := tidy.turn_of_active active
    rw [turn, Option.isSome_some]

/-! ## Whom a lane serves -/

theorem lastAccepted_cons {entry : Request η × Reply} {entries : List (Request η × Reply)} :
    lastAccepted d (entry :: entries) = (lastAccepted d entries).or (accepted? d entry) := by
  rw [lastAccepted, List.reverse_cons, List.findSome?_append, List.findSome?_singleton]
  rfl

/-- A start that is accepted registers its handler. -/
theorem handler_perform_start {k : η} : (((Request.start e k).perform hs s).2.dma.lane d).handler =
    (accepted? d (.start e k, ((Request.start e k).perform hs s).1)).or
      (s.dma.lane d).handler := by
  have answer : ((Request.start e k).perform hs s).1 =
      .started (if (s.dma.lane e).refusing then .error ⟨e⟩ else .ok ()) :=
    congrArg Reply.started start_eq
  have lane : ((Request.start e k).perform hs s).2.dma.lane d =
      if d = e then (s.dma.lane d).start k else s.dma.lane d := lane_start
  rw [answer, lane]
  by_cases same : d = e
  · subst same
    rw [if_pos rfl, Lane.handler_start]
    split
    · rfl
    · show _ = (if d = d then some k else none).or _
      rw [if_pos rfl, Option.some_or]
  · rw [if_neg same]
    split
    · rfl
    · show _ = (if e = d then some k else none).or _
      rw [if_neg (Ne.symm same), Option.none_or]

/-- Nobody is registered but whoever was accepted, or was registered before. -/
theorem handler_perform (registered : ((r.perform hs s).2.dma.lane d).handler = some h) :
    (accepted? d (r, (r.perform hs s).1)).or (s.dma.lane d).handler = some h := by
  cases r with
  | start e k => exact handler_perform_start.symm.trans registered
  | cancel e =>
    rw [lane_perform] at registered
    split at registered
    · exact Lane.handler_requestCancel.symm.trans registered
    · exact registered
  | refuse e =>
    rw [lane_perform] at registered
    split at registered <;> exact registered
  | complete | completeWith | fail =>
    rw [lane_perform] at registered
    split at registered
    · exact Lane.handler_of_handler_turn registered
    · exact registered

/-- **A lane serves whoever it was started for last**, or whoever it served to begin with. -/
theorem handler_after (registered : ((s.after hs rs).dma.lane d).handler = some h) :
    (lastAccepted d (s.transcript hs rs)).or (s.dma.lane d).handler = some h := by
  induction rs generalizing s with
  | nil => exact registered
  | cons r rs ih =>
    rw [Site.transcript_cons, lastAccepted_cons, Option.or_assoc]
    rcases Option.or_eq_some_iff.mp (ih registered) with later | ⟨none_later, before⟩
    · rw [later, Option.some_or]
    · rw [none_later, Option.none_or]
      exact handler_perform before

/-! ## Histories -/

theorem starts_after :
    (s.after hs rs).dma.starts = s.dma.starts ++ rs.filterMap Request.starts? := by
  induction rs generalizing s with
  | nil => exact (List.append_nil _).symm
  | cons r rs ih =>
    rw [Site.after_cons, ih, starts_perform, List.append_assoc]
    cases r <;> rfl

theorem cancels_after :
    (s.after hs rs).dma.cancels = s.dma.cancels ++ rs.filterMap Request.cancels? := by
  induction rs generalizing s with
  | nil => exact (List.append_nil _).symm
  | cons r rs ih =>
    rw [Site.after_cons, ih, cancels_perform, List.append_assoc]
    cases r <;> rfl

theorem tidy_fresh {slots : Nat} {world : ω} (d : Direction) :
    ((Site.fresh slots world : Site η ω).dma.lane d).Tidy := by
  cases d <;> exact ⟨rfl, fun h => h⟩

/-- **Every controller, along every history of requests, whoever its handlers are.** A direction
runs exactly if somebody is registered, it is about to stop only if it runs, and it serves whoever
it was started for last. A transfer that ends is delivered exactly if its direction runs. A start
that is refused is recorded and changes nothing else, and no request changes the other lane. The
records hold every start and every cancel in order, whatever came of them. -/
theorem lanes_after (hs : Handlers η ω) (slots : Nat) (world : ω) (rs : List (Request η)) :
    let s := (Site.fresh slots world).after hs rs
    let seen := (Site.fresh slots world).transcript hs rs
    (∀ d, (s.dma.isActive d = true ↔ (s.dma.lane d).hasHandler = true) ∧
        ((s.dma.lane d).cancelling = true → s.dma.isActive d = true) ∧
        (s.dma.lane d).handler = if s.dma.isActive d then lastAccepted d seen else none) ∧
      (∀ r : Request η, r.ends = true → ∃ v, (r.perform hs s).1 = .ended v ∧
        (v.isSome = true ↔ s.dma.isActive r.direction = true)) ∧
      (∀ d h why, ((Request.start d h).perform hs s).1 = .started (.error why) →
        ((Request.start d h).perform hs s).2 =
          { s with dma := { s.dma with starts := s.dma.starts ++ [d] } }) ∧
      (∀ (r : Request η) (d : Direction), d ≠ r.direction →
        (r.perform hs s).2.dma.lane d = s.dma.lane d) ∧
      s.dma.starts = rs.filterMap Request.starts? ∧
      s.dma.cancels = rs.filterMap Request.cancels? := by
  intro s seen
  have tidy : ∀ d, (s.dma.lane d).Tidy := tidy_after tidy_fresh
  have nobody : ∀ d, ((Site.fresh slots world : Site η ω).dma.lane d).handler = none := by
    intro d
    cases d <;> rfl
  refine ⟨fun d => ⟨?_, (tidy d).active_of_cancelling, ?_⟩, fun r ends => ?_,
    fun d h why => perform_of_refused, fun r d => lane_perform_of_ne, starts_after, cancels_after⟩
  · show (s.dma.lane d).active = true ↔ _
    rw [(tidy d).hasHandler]
  · show _ = if (s.dma.lane d).active then lastAccepted d seen else none
    cases registered : (s.dma.lane d).handler with
    | none =>
      have idle : (s.dma.lane d).active = false := by
        rw [← (tidy d).hasHandler, Lane.hasHandler, registered, Option.isSome_none]
      rw [idle]
      rfl
    | some h =>
      have active : (s.dma.lane d).active = true := by
        rw [← (tidy d).hasHandler, Lane.hasHandler, registered, Option.isSome_some]
      have last := handler_after registered
      rw [nobody, Option.or_none] at last
      rw [active, if_pos rfl]
      exact last.symm
  · obtain ⟨v, answer, turn⟩ := exists_ended_of_ends hs s ends
    exact ⟨v, answer, by rw [turn, isSome_takeTurn (tidy _)]⟩

/-- A lane that plays refuses a start for somebody else, and is about to stop. It still serves the
first handler, whose turn is to come. -/
theorem lanes_after_refused :
    let hs : Handlers Nat Unit := ⟨fun i _ _ _ => (⟨i, []⟩, ())⟩
    let s : Site Nat Unit := (Site.fresh 2 ()).after hs
      [.start .transmit 5, .refuse .transmit, .start .transmit 6, .cancel .transmit]
    (s.dma.lane .transmit).handler = some 5 ∧
      (∃ v, ((Request.fail .transmit).perform hs s).1 = .ended v ∧ v.isSome = true) ∧
      ((Request.start .transmit 7).perform hs s).1 = .started (.error ⟨.transmit⟩) ∧
      ((Request.start .transmit 7).perform hs s).2 =
        { s with dma := { s.dma with starts := [.transmit, .transmit, .transmit] } } := by
  intro hs s
  obtain ⟨lanes, turns, refused, -, -, -⟩ := lanes_after hs 2 ()
    [.start .transmit 5, .refuse .transmit, .start .transmit 6, .cancel .transmit]
  obtain ⟨v, answer, turn⟩ := turns (.fail .transmit) rfl
  exact ⟨(lanes .transmit).2.2, ⟨v, answer, turn.mpr rfl⟩, rfl, refused .transmit 7 _ rfl⟩

end Dma

/-! ## Endpoints as handlers -/

namespace Transport

open Dma (Site Request)

variable {n : Nat} {t : Transport n} {d : Direction} {x : Transfer}

/-- Endpoints handle the transfers of their controller. -/
def handlers : Handlers (Fin n) (Vector Endpoint n) where
  notify i d x endpoints :=
    let (v, e) := (endpoints.get i).complete d x
    (v, endpoints.set i e i.isLt)

/-- The controller of a transport, with the endpoints as its world. -/
def site (t : Transport n) : Site (Fin n) (Vector Endpoint n) := ⟨t.dma, t.endpoints⟩

/-- The transport of a controller whose world is endpoints. -/
def ofSite (s : Site (Fin n) (Vector Endpoint n)) : Transport n := ⟨s.dma, s.world⟩

/-- A request to the controller, as a command to the transport. -/
def Command.ofRequest : Request (Fin n) → Command n
  | .start d i => .start d i
  | .cancel d => .cancel d
  | .refuse d => .refuse d
  | .complete d => .complete d
  | .completeWith d buffer => .completeWith d buffer
  | .fail d => .fail d

/-- The answer of the controller to a request, as the transport gives it. -/
def Reply.ofReply : Request (Fin n) → Dma.Reply → Reply
  | _, .done => .done
  | _, .started r => .started r
  | .completeWith _ buffer, .ended v => .returned (v.map (·.produced)) (v.elim buffer (·.buffer))
  | .fail _, .ended v => .failed (v.map (·.produced))
  | _, .ended v => .delivered v

theorem complete_eq_deliver : t.complete d x =
    ((t.site.deliver handlers d x).1, ofSite (t.site.deliver handlers d x).2) := by
  have same : t.site.dma.takeTurn d = t.dma.takeTurn d := rfl
  rw [complete, Site.deliver, same]
  rcases t.dma.takeTurn d with ⟨_ | i, dma⟩ <;> rfl

/-- **Endpoints are handlers.** What a transport makes of a command is what its controller makes of
the request. -/
theorem perform_ofRequest (r : Request (Fin n)) (t : Transport n) :
    (Command.ofRequest r).perform t =
      (.ofReply r (r.perform handlers t.site).1, ofSite (r.perform handlers t.site).2) := by
  cases r with
  | start | cancel | refuse => rfl
  | complete | completeWith | fail =>
    simp only [Command.ofRequest, Command.perform, complete_eq_deliver]
    rfl

end Transport

end SerialAudio
