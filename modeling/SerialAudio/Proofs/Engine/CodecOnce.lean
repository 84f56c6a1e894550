import SerialAudio.Engine.Calls
import SerialAudio.Proofs.Engine.Faults
/-!
# The codec is brought up once

Bringing a codec up takes many transactions on a bus that is not the engine's own. An engine does it
once: in its first start, and never again.

Nothing in an engine says that it was started. What keeps the second start from the bus is one of
several things, according to what became of the first: a codec that was brought up is remembered,
and a place without one is remembered as well; a codec that failed is not, but that was a fault.
`Settled` has these reasons side by side, and it has to, since one may take over from another: a
lane that is refused after the codec was brought up leaves two of them.

## The first start

For the bus to be used at all, the first start has to find no fault. An engine on an endpoint that
nobody used before cannot have seen one by then, even if the lanes run for others all the while,
since a transfer that breaks down is only told to the endpoint that it was for.

## Main results

* `settled_start` — every start leaves an engine that will not use its bus any more
* `start_of_due` — what a start makes of the codec and the bus
* `codec_once` — what a whole history makes of them
-/

namespace SerialAudio

/-- An endpoint that no lane is told to call, and that saw no fault. The lanes may be busy with
others. -/
structure Rig.Unused {n : Nat} (rig : Rig n) (link : Fin n) : Prop where
  /-- The endpoint is usable. -/
  clear : (rig.transport.endpoint link).isFaulted = false
  /-- Nobody calls it. -/
  unserved : ∀ d, (rig.transport.dma.lane d).handler ≠ some link

theorem Rig.Fresh.unused {n : Nat} {rig : Rig n} {link : Fin n} (h : rig.Fresh link) :
    rig.Unused link :=
  ⟨h.clear, fun d hh => Option.some_ne_none link (hh.symm.trans (h.idle d).handler)⟩

namespace Installed

variable {n : Nat} {s t u : Installed n} {a : Act} {acts : List Act} {d : Direction} {x : Transfer}
  {codec : Option Codec.Status} {before : ControlBus} {after : Option ControlBus}

/-! ## Transfers that end, whoever is served -/

/-- Either the turn is not for this engine, or its endpoint hears of it. -/
theorem endpoint_complete_or (s : Installed n) (d : Direction) (x : Transfer) :
    (s.complete d x).2.endpoint = s.endpoint ∨
      (s.lane d).handler = some s.engine.link ∧
        (s.complete d x).2.endpoint = (s.endpoint.complete d x).2 := by
  have called : ∀ i, (s.rig.transport.dma.takeTurn d).1 = some i → (s.lane d).handler = some i :=
    fun i hi => Lane.handler_of_turn hi
  rw [complete, Transport.complete]
  generalize s.rig.transport.dma.takeTurn d = turn at called ⊢
  rcases turn with ⟨_ | i, dma⟩
  · exact .inl rfl
  · by_cases hi : i = s.engine.link
    · subst hi
      exact .inr ⟨called _ rfl, Transport.endpoint_setEndpoint_self⟩
    · exact .inl (Transport.endpoint_setEndpoint_of_ne (Ne.symm hi))

/-- The latch is for life. -/
theorem isFaulted_complete (h : s.isFaulted = true) : (s.complete d x).2.isFaulted = true := by
  rw [isFaulted]
  rcases endpoint_complete_or s d x with same | ⟨-, told⟩
  · rw [same]
    exact h
  · rw [told]
    cases x with
    | finished buffer =>
      rw [Endpoint.isFaulted_complete_finished]
      exact h
    | failed buffer =>
      rw [Endpoint.complete_failed]
      rfl

/-! ## Before the first start -/

/-- Nobody calls the endpoint of the engine. -/
def Unserved (s : Installed n) : Prop := ∀ d, (s.lane d).handler ≠ some s.engine.link

theorem Unserved.cancel (h : s.Unserved) : s.cancel.Unserved := by
  intro d
  rw [lane_cancel]
  split
  · rw [Lane.handler_requestCancel]
    exact h d
  · exact h d

theorem Unserved.refuse (h : s.Unserved) : (s.refuse d).Unserved := by
  intro e
  rw [handler_refuse]
  exact h e

theorem Unserved.complete (h : s.Unserved) : (s.complete d x).2.Unserved := by
  intro e
  rw [lane_complete]
  split
  · exact fun hh => h e (Lane.handler_of_handler_turn hh)
  · exact h e

theorem Unserved.isFaulted_complete (h : s.Unserved) :
    (s.complete d x).2.isFaulted = s.isFaulted := by
  rcases endpoint_complete_or s d x with same | ⟨served, -⟩
  · exact congrArg Endpoint.isFaulted same
  · exact absurd served (h d)

/-- Nothing happened to the codec, and nothing on the bus. -/
structure SameCodec (s t : Installed n) : Prop where
  /-- What is known about the codec. -/
  codec : t.engine.codec = s.engine.codec
  /-- The bus, with its record. -/
  bus : t.rig.bus = s.rig.bus

theorem SameCodec.refl : s.SameCodec s := ⟨rfl, rfl⟩

theorem SameCodec.trans (h : s.SameCodec t) (h' : t.SameCodec u) : s.SameCodec u :=
  ⟨h'.codec.trans h.codec, h'.bus.trans h.bus⟩

/-- Only a start has to do with the codec. -/
theorem sameCodec_step (ne : a ≠ .start) : s.SameCodec (s.step a).2 := by
  cases a with
  | start => exact absurd rfl ne
  | cancel | refuse | finish | fail => exact ⟨rfl, rfl⟩

/-- What stays of an engine as long as it is not started. -/
structure Untried (s t : Installed n) : Prop extends SameCodec s t where
  /-- Nobody calls its endpoint. -/
  unserved : t.Unserved
  /-- So it sees no fault. -/
  fault : t.isFaulted = s.isFaulted
  /-- What was asked for. -/
  config : t.engine.config = s.engine.config
  /-- Whether it may use the bus. -/
  wired : t.engine.wired = s.engine.wired

theorem untried_step (h : s.Unserved) (ne : a ≠ .start) : s.Untried (s.step a).2 := by
  have same := sameCodec_step (s := s) ne
  cases a with
  | start => exact absurd rfl ne
  | cancel => exact ⟨same, h.cancel, rfl, rfl, rfl⟩
  | refuse d => exact ⟨same, h.refuse, rfl, rfl, rfl⟩
  | finish d buffer => exact ⟨same, h.complete, h.isFaulted_complete, rfl, rfl⟩
  | fail d => exact ⟨same, h.complete, h.isFaulted_complete, rfl, rfl⟩

theorem untried_after (h : s.Unserved) (quiet : .start ∉ acts) : s.Untried (s.after acts) := by
  induction acts generalizing s with
  | nil => exact ⟨.refl, h, rfl, rfl, rfl⟩
  | cons a acts ih =>
    rw [List.mem_cons, not_or] at quiet
    have first := untried_step h (Ne.symm quiet.1)
    have rest := ih first.unserved quiet.2
    exact ⟨first.toSameCodec.trans rest.toSameCodec, rest.unserved, rest.fault.trans first.fault,
      rest.config.trans first.config, rest.wired.trans first.wired⟩

/-! ## The first start -/

theorem codecDue_iff : s.codecDue = true ↔
    s.engine.config.mode.transmits = true ∧ s.engine.codec = none ∧ s.engine.wired = true := by
  rw [codecDue, Bool.and_eq_true, Bool.and_eq_true, Option.isNone_iff_eq_none, and_assoc]

theorem CodecTaken.of_due (h : s.CodecTaken codec after) (due : s.codecDue = true)
    (wired : s.rig.bus = some before) :
    after = some (Codec.setUp before s.engine.config.codecAddress).2 ∧
      codec = (Codec.setUp before s.engine.config.codecAddress).1.toOption := by
  cases h with
  | skipped h => exact absurd h (not_skipped due wired)
  | setUp _ wired' answer =>
    cases Option.some.inj (wired.symm.trans wired')
    rw [answer]
    exact ⟨rfl, rfl⟩

/-- **What a start makes of a codec that has to be brought up** over a bus that is there. -/
theorem start_of_due (clear : s.isFaulted = false) (due : s.codecDue = true)
    (wired : s.rig.bus = some before) :
    s.start.2.rig.bus = some (Codec.setUp before s.engine.config.codecAddress).2 ∧
      s.start.2.engine.codec = (Codec.setUp before s.engine.config.codecAddress).1.toOption := by
  have ending := start_case s
  generalize s.start.1 = r, s.start.2 = t at ending ⊢
  cases ending with
  | faulted seen => exact absurd (clear.symm.trans seen) Bool.false_ne_true
  | codec _ failed =>
    obtain ⟨before', cause, wired', answer⟩ := failed.answer
    cases Option.some.inj (wired.symm.trans wired')
    rw [answer]
    exact ⟨rfl, (codecDue_iff.mp due).2.1⟩
  | lane _ taken _ => exact taken.of_due due wired
  | ok _ taken _ => exact taken.of_due due wired

/-! ## Afterwards -/

/-- Why an engine will not bring its codec up any more. -/
inductive Settled (s : Installed n) : Prop where
  /-- It saw a fault. -/
  | faulted (seen : s.isFaulted = true)
  /-- It never had to, or it did. -/
  | notDue (h : s.codecDue = false)
  /-- There is no bus to do it over. -/
  | unreachable (h : s.rig.bus = none)

/-- **Every start settles it**, whatever comes of the start. -/
theorem settled_start (s : Installed n) : s.start.2.Settled := by
  have ending := start_case s
  generalize s.start.1 = r, s.start.2 = t at ending ⊢
  cases ending with
  | faulted seen => exact .faulted seen
  | codec _ _ => exact .faulted isFaulted_trip
  | lane _ _ _ => exact .faulted isFaulted_trip
  | ok _ taken _ =>
    cases taken with
    | skipped h =>
      rcases h with h | h
      · exact .notDue h
      · exact .unreachable h
    | setUp _ _ _ =>
      -- it is remembered now that the codec was brought up
      exact .notDue (eq_false_of_ne_true fun due => nomatch (codecDue_iff.mp due).2.1)

theorem CodecTaken.sameCodec (h : s.CodecTaken codec after)
    (skips : s.codecDue = false ∨ s.rig.bus = none) : s.SameCodec (s.withCodec codec after) := by
  cases h with
  | skipped _ => exact .refl
  | setUp due wired _ => exact absurd skips (not_skipped due wired)

/-- A start of an engine that is settled skips the codec, if it comes that far. -/
theorem Settled.skips (h : s.Settled) (clear : s.isFaulted = false) :
    s.codecDue = false ∨ s.rig.bus = none := by
  cases h with
  | faulted seen => exact absurd (clear.symm.trans seen) Bool.false_ne_true
  | notDue h => exact .inl h
  | unreachable h => exact .inr h

theorem Settled.sameCodec_start (h : s.Settled) : s.SameCodec s.start.2 := by
  have ending := start_case s
  generalize s.start.1 = r, s.start.2 = t at ending ⊢
  cases ending with
  | faulted _ => exact .refl
  | codec clear failed =>
    obtain ⟨due, before, wired, -⟩ := failed.refuses
    exact absurd (h.skips clear) (not_skipped due wired)
  | lane clear taken _ =>
    have same := taken.sameCodec (h.skips clear)
    exact ⟨same.codec, same.bus⟩
  | ok clear taken _ =>
    have same := taken.sameCodec (h.skips clear)
    exact ⟨same.codec, same.bus⟩

theorem Settled.congr (h : s.Settled) (fault : s.isFaulted = true → t.isFaulted = true)
    (due : t.codecDue = s.codecDue) (bus : t.rig.bus = s.rig.bus) : t.Settled := by
  cases h with
  | faulted seen => exact .faulted (fault seen)
  | notDue h => exact .notDue (due.trans h)
  | unreachable h => exact .unreachable (bus.trans h)

/-- Whatever happens leaves it settled. -/
theorem Settled.step (h : s.Settled) : (s.step a).2.Settled := by
  cases a with
  | start => exact settled_start s
  | cancel | refuse => exact h.congr id rfl rfl
  | finish | fail => exact h.congr isFaulted_complete rfl rfl

theorem Settled.sameCodec_step (h : s.Settled) : s.SameCodec (s.step a).2 := by
  by_cases ha : a = .start
  · subst ha
    exact h.sameCodec_start
  · exact Installed.sameCodec_step ha

/-! ## Histories -/

/-- **An engine that is settled leaves its bus alone.** -/
theorem Settled.sameCodec_after (h : s.Settled) : s.SameCodec (s.after acts) := by
  induction acts generalizing s with
  | nil => exact .refl
  | cons a acts ih => exact h.sameCodec_step.trans (ih h.step)

/-- One start is enough. -/
theorem settled_after (h : s.Settled ∨ .start ∈ acts) : (s.after acts).Settled := by
  induction acts generalizing s with
  | nil => exact h.resolve_right List.not_mem_nil
  | cons a acts ih =>
    refine ih ?_
    rcases h with settled | started
    · exact .inl settled.step
    · rcases List.mem_cons.mp started with rfl | later
      · exact .inl (settled_start s)
      · exact .inr later

/-- The first start brings the codec up, and nothing happens to it or to the bus from then on. -/
theorem codec_after (h : s.Unserved) (clear : s.isFaulted = false) (due : s.codecDue = true)
    (wired : s.rig.bus = some before) (started : .start ∈ acts) :
    (s.after acts).rig.bus = some (Codec.setUp before s.engine.config.codecAddress).2 ∧
      (s.after acts).engine.codec =
        (Codec.setUp before s.engine.config.codecAddress).1.toOption := by
  obtain ⟨earlier, later, rfl, quiet⟩ := List.eq_append_cons_of_mem started
  have untried := untried_after h quiet
  have due' : (s.after earlier).codecDue = true := by
    rw [codecDue, untried.config, untried.codec, untried.wired]
    exact due
  have first := start_of_due (untried.fault.trans clear) due' (untried.bus.trans wired)
  have rest : SameCodec _ ((s.after earlier).start.2.after later) :=
    (settled_start (s.after earlier)).sameCodec_after
  rw [after_append, after_cons, ← untried.config]
  exact ⟨rest.bus.trans first.1, rest.codec.trans first.2⟩

/-! ## Engines that were built -/

variable {rig rig' : Rig n} {config : Config} {link : Fin n} {wired : Bool} {engine : Engine n}
  {calls : List Call}

theorem bus_of_install_eq_ok (built : rig.install config link wired = (.ok engine, rig')) :
    rig'.bus = rig.bus := by
  obtain ⟨divisor, -, -, rfl⟩ := install_eq_ok built
  rfl

/-- An engine begins with an endpoint as the rig had it. -/
theorem unserved_of_install_eq_ok (built : rig.install config link wired = (.ok engine, rig'))
    (unused : rig.Unused link) :
    (⟨engine, rig'⟩ : Installed n).Unserved ∧ (⟨engine, rig'⟩ : Installed n).isFaulted = false := by
  obtain ⟨rfl, transport, -⟩ := of_install_eq_ok built
  constructor
  · intro d
    rw [lane, transport]
    exact unused.unserved d
  · rw [isFaulted, endpoint, transport]
    exact unused.clear

/-- Some engines have nothing to settle. -/
theorem settled_of_install_eq_ok (built : rig.install config link wired = (.ok engine, rig'))
    (useless : config.mode.transmits = false ∨ wired = false ∨ rig.bus = none) :
    (⟨engine, rig'⟩ : Installed n).Settled := by
  obtain ⟨rfl, -, -⟩ := of_install_eq_ok built
  rcases useless with silent | barred | absent
  · refine .notDue (eq_false_of_ne_true fun due => ?_)
    exact Bool.false_ne_true (silent.symm.trans (codecDue_iff.mp due).1)
  · refine .notDue (eq_false_of_ne_true fun due => ?_)
    exact Bool.false_ne_true (barred.symm.trans (codecDue_iff.mp due).2.2)
  · exact .unreachable ((bus_of_install_eq_ok built).trans absent)

theorem start_mem_iff : .start ∈ calls.filterMap Call.act? ↔ .act .start ∈ calls := by
  rw [List.mem_filterMap]
  constructor
  · rintro ⟨c, hc, ha⟩
    cases c with
    | act a =>
      cases Option.some.inj ha
      exact hc
    | read | describe => cases ha
  · intro h
    exact ⟨_, h, rfl⟩

/-- **The codec is brought up at most once in the life of an engine, and by its first start.** An
engine that only captures, or that has no use of a bus, does nothing on the bus. Any other one does
nothing there until it is started; from then on the record has the transactions of bringing the
codec up once at the configured address, and no more, whether that went well or not, and the result
is known if there was one. So a call that uses the bus is the first start; and removing the engine
does not use it either. -/
theorem codec_once (built : rig.install config link wired = (.ok engine, rig'))
    (unused : rig.Unused link) (calls : List Call) :
    let t := (⟨engine, rig'⟩ : Installed n).afterCalls calls
    let started := .act .start ∈ calls
    (config.mode.transmits = false ∨ wired = false ∨ rig.bus = none →
        t.rig.bus = rig.bus ∧ t.engine.codec = none) ∧
      (config.mode.transmits = true → wired = true → ∀ before, rig.bus = some before →
        (¬started → t.rig.bus = some before ∧ t.engine.codec = none) ∧
          (started → t.rig.bus = some (Codec.setUp before config.codecAddress).2 ∧
            t.engine.codec = (Codec.setUp before config.codecAddress).1.toOption)) ∧
      (∀ c, (t.call c).2.rig.bus ≠ t.rig.bus → c = .act .start ∧ ¬started) ∧
      t.remove.bus = t.rig.bus := by
  intro t started
  have ht : t = (⟨engine, rig'⟩ : Installed n).after (calls.filterMap Call.act?) := afterCalls_eq
  have hcodec : engine.codec = none := by rw [(of_install_eq_ok built).1]
  have hbus := bus_of_install_eq_ok built
  obtain ⟨unserved, clear⟩ := unserved_of_install_eq_ok built unused
  refine ⟨fun useless => ?_, fun transmits hwired before there => ⟨fun quiet => ?_, fun h => ?_⟩,
    fun c used => ?_, rfl⟩
  · have same : SameCodec ⟨engine, rig'⟩ t :=
      ht ▸ (settled_of_install_eq_ok built useless).sameCodec_after
    exact ⟨same.bus.trans hbus, same.codec.trans hcodec⟩
  · rw [ht]
    have untried := untried_after unserved (mt start_mem_iff.mp quiet)
    exact ⟨untried.bus.trans (hbus.trans there), untried.codec.trans hcodec⟩
  · rw [ht]
    have due : (⟨engine, rig'⟩ : Installed n).codecDue = true := by
      rw [(of_install_eq_ok built).1]
      exact codecDue_iff.mpr ⟨transmits, rfl, hwired⟩
    have first := codec_after unserved clear due (hbus.trans there) (start_mem_iff.mpr h)
    rw [(of_install_eq_ok built).1] at first ⊢
    exact first
  · cases c with
    | act a =>
      have first : a = .start := Classical.byContradiction fun ne => used (sameCodec_step ne).bus
      refine ⟨congrArg _ first, fun h => used ?_⟩
      have settled : t.Settled := ht ▸ settled_after (.inr (start_mem_iff.mpr h))
      exact settled.sameCodec_step.bus
    | read | describe => exact absurd rfl used

/-- A codec that is missing from where it has to be is sent its first word once. A transfer that
breaks down before the first start is not this engine's, and does not keep it from trying. -/
theorem codec_once_missing :
    let missing := FaultPlan.bus { absent := [0x4C] }
    let t := unanswered.afterCalls
      [.act (.fail .transmit), .act .start, .read, .act .cancel, .act .start]
    (Rig.bare (some missing)).Unused 0 ∧ t.engine.codec = none ∧
      t.rig.bus = some (Codec.setUp missing (.fixed 0x4C)).2 ∧
      (Codec.setUp missing (.fixed 0x4C)).2.record.length = 1 := by
  intro missing t
  have unused : (Rig.bare (some missing)).Unused 0 := Rig.fresh_bare.unused
  have built : (Rig.bare (some missing)).install unanswered.engine.config 0 true =
      (.ok unanswered.engine, unanswered.rig) := install_of_following rfl
  obtain ⟨-, tried, -, -⟩ := codec_once built unused
    [.act (.fail .transmit), .act .start, .read, .act .cancel, .act .start]
  obtain ⟨bus, codec⟩ := (tried rfl rfl missing rfl).2 (by decide)
  exact ⟨unused, codec, bus, rfl⟩

end Installed

end SerialAudio
