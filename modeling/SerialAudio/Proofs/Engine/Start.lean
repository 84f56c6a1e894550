import SerialAudio.Proofs.Codec.Refusal
import SerialAudio.Proofs.Engine.Building
/-!
# What a start can do

A start has three places to fail and leaves something different behind at each. `StartCase` lists
the four endings with the whole state that each of them leaves, so that nothing else has to look
into `Installed.start`: an invariant is proved by cases on the ending, and so is the description of
a single start.

## When the endings happen

The conditions are stated on the state *before* the start, without the functions that the start is
made of. `CodecRefuses` numbers the words of a table on from the transactions that were made
already, and `FirstRefused` looks at the lanes as they are; that a lane which was just started does
not change what the next one answers is part of the proof and not of the statement.

## Main results

* `start_case` — a start ends in one of the four ways
* `start_effect` — which one it is, and what it leaves of the block, the lanes and the codec
-/

namespace SerialAudio

namespace Installed

variable {n : Nat} {s t : Installed n} {d : Direction} {ds : List Direction}

/-! ## The codec -/

/-- The codec has to be brought up now, over a bus that is there, and the fixed address does not
take the table of the family that is expected at it. -/
def CodecRefuses (s : Installed n) (family : Codec.Family) (address : UInt8) : Prop :=
  s.codecDue = true ∧ ∃ bus, s.rig.bus = some bus ∧ s.engine.config.codecAddress = .fixed address ∧
    family = Codec.Family.atAddress address ∧ bus.Refuses address family.table

/-- What is known about the codec, and the bus, once bringing it up did not fail. -/
inductive CodecTaken (s : Installed n) : Option Codec.Status → Option ControlBus → Prop where
  /-- There was nothing to do, or nothing to do it over. -/
  | skipped (h : s.codecDue = false ∨ s.rig.bus = none) : CodecTaken s s.engine.codec s.rig.bus
  /-- It was brought up. -/
  | setUp {before after : ControlBus} {status : Codec.Status} (due : s.codecDue = true)
      (wired : s.rig.bus = some before)
      (answer : Codec.setUp before s.engine.config.codecAddress = (.ok status, after)) :
      CodecTaken s (some status) (some after)

/-- The engine after the codec was brought up. -/
def withCodec (s : Installed n) (codec : Option Codec.Status) (bus : Option ControlBus) :
    Installed n :=
  { s with engine.codec := codec, rig.bus := bus }

theorem not_skipped {bus : ControlBus} (due : s.codecDue = true) (wired : s.rig.bus = some bus) :
    ¬(s.codecDue = false ∨ s.rig.bus = none) := by
  rintro (h | h)
  · exact Bool.false_ne_true (h.symm.trans due)
  · exact Option.some_ne_none bus (wired.symm.trans h)

theorem CodecTaken.not_refuses {codec bus} (h : s.CodecTaken codec bus) {family address} :
    ¬s.CodecRefuses family address := by
  rintro ⟨due, before, hb, ha, rfl, hr⟩
  cases h with
  | skipped h => exact not_skipped due hb h
  | setUp _ wired answer =>
    cases Option.some.inj (wired.symm.trans hb)
    obtain ⟨cause, after, hs⟩ := Codec.setUp_fixed_of_refuses hr
    rw [ha, hs] at answer
    exact nomatch answer

/-- The codec answered with a failure, which leaves the bus behind. -/
structure CodecFailed (s : Installed n) (family : Codec.Family) (address : UInt8)
    (after : ControlBus) : Prop where
  /-- It was to be expected. -/
  refuses : s.CodecRefuses family address
  /-- The answer. -/
  answer : ∃ before cause, s.rig.bus = some before ∧
    Codec.setUp before s.engine.config.codecAddress = (.error ⟨family, address, cause⟩, after)

theorem prepareCodec_of_refuses {family address} (h : s.CodecRefuses family address) :
    ∃ bus, s.CodecFailed family address bus ∧
      s.prepareCodec = (.error (.codec family address), trip { s with rig.bus := some bus }) := by
  have h' := h
  obtain ⟨due, before, hb, ha, rfl, hr⟩ := h
  obtain ⟨cause, after, hs⟩ := Codec.setUp_fixed_of_refuses hr
  refine ⟨after, ⟨h', before, cause, hb, by rw [ha, hs]⟩, ?_⟩
  rw [prepareCodec, due, hb]
  dsimp only
  rw [setUpCodec, ha, hs]

theorem prepareCodec_of_not_refuses (h : ∀ family address, ¬s.CodecRefuses family address) :
    ∃ codec bus, s.CodecTaken codec bus ∧ s.prepareCodec = (.ok (), s.withCodec codec bus) := by
  cases due : s.codecDue with
  | false => exact ⟨_, _, .skipped (.inl due), by rw [prepareCodec, due]; rfl⟩
  | true =>
    cases hb : s.rig.bus with
    | none =>
      refine ⟨_, _, .skipped (.inr hb), ?_⟩
      rw [prepareCodec, due]
      split
      · rename_i h
        exact absurd (hb.symm.trans h) (Option.some_ne_none _).symm
      · rfl
    | some bus =>
      have hn : ∀ address, s.engine.config.codecAddress = .fixed address →
          ¬bus.Refuses address (Codec.Family.atAddress address).table :=
        fun address ha hr => h _ address ⟨due, bus, hb, ha, rfl, hr⟩
      obtain ⟨status, after, hs⟩ := Codec.setUp_of_not_refuses hn
      refine ⟨_, _, .setUp due hb hs, ?_⟩
      rw [prepareCodec, due, hb]
      dsimp only
      rw [setUpCodec, hs]
      rfl

/-! ## The lanes -/

/-- The engine after several lanes were asked to start. -/
def withLanes (s : Installed n) (ds : List Direction) : Installed n :=
  { s with rig.transport.dma := s.rig.transport.dma.startAll s.engine.link ds }

theorem lane_withLanes :
    (s.withLanes ds).lane d = if d ∈ ds then (s.lane d).start s.engine.link else s.lane d :=
  Dma.lane_startAll

/-- Whether a lane refuses does not depend on what was started before it. -/
theorem refusing_withLanes : ((s.withLanes ds).lane d).refusing = (s.lane d).refusing := by
  rw [lane_withLanes]
  split
  · exact Lane.refusing_start
  · rfl

theorem withLanes_cons (s : Installed n) (d : Direction) (ds : List Direction) :
    s.withLanes (d :: ds) = (s.withLanes [d]).withLanes ds := rfl

theorem startLane_of_refusing (h : (s.lane d).refusing = true) :
    s.startLane d = (.error (.dma d), (s.withLanes [d]).trip) := by
  have he : (s.rig.transport.dma.start d s.engine.link).1 = .error ⟨d⟩ :=
    Dma.start_eq.trans (if_pos h)
  rw [startLane]
  rcases hs : s.rig.transport.dma.start d s.engine.link with ⟨r, dma⟩
  rw [hs] at he
  subst he
  rw [withLanes, Dma.startAll_cons, hs]
  rfl

theorem startLane_of_not_refusing (h : (s.lane d).refusing = false) :
    s.startLane d = (.ok (), s.withLanes [d]) := by
  have he : (s.rig.transport.dma.start d s.engine.link).1 = .ok () :=
    Dma.start_eq.trans (if_neg (Bool.not_eq_true _ ▸ h))
  rw [startLane]
  rcases hs : s.rig.transport.dma.start d s.engine.link with ⟨r, dma⟩
  rw [hs] at he
  subst he
  rw [withLanes, Dma.startAll_cons, hs]
  rfl

theorem startLanes_of_not_refusing (h : ∀ e ∈ ds, (s.lane e).refusing = false) :
    startLanes ds s = (.ok (), s.withLanes ds) := by
  induction ds generalizing s with
  | nil => rfl
  | cons d ds ih =>
    have hrest : ∀ e ∈ ds, ((s.withLanes [d]).lane e).refusing = false := by
      intro e he
      rw [refusing_withLanes]
      exact h e (List.mem_cons_of_mem _ he)
    rw [startLanes, startLane_of_not_refusing (h d List.mem_cons_self), withLanes_cons s d ds]
    exact ih hrest

theorem startLanes_of_refusing {earlier later : List Direction}
    (h : ∀ e ∈ earlier, (s.lane e).refusing = false) (hd : (s.lane d).refusing = true) :
    startLanes (earlier ++ d :: later) s =
      (.error (.dma d), (s.withLanes (earlier ++ [d])).trip) := by
  induction earlier generalizing s with
  | nil => rw [List.nil_append, startLanes, startLane_of_refusing hd, List.nil_append]
  | cons e earlier ih =>
    have hrest : ∀ x ∈ earlier, ((s.withLanes [e]).lane x).refusing = false := by
      intro x hx
      rw [refusing_withLanes]
      exact h x (List.mem_cons_of_mem _ hx)
    have hd' : ((s.withLanes [e]).lane d).refusing = true := refusing_withLanes.trans hd
    rw [List.cons_append, startLanes, startLane_of_not_refusing (h e List.mem_cons_self),
      List.cons_append, withLanes_cons s e (earlier ++ [d])]
    exact ih hrest hd'

/-- The directions of the engine that are served before a direction. -/
def before (s : Installed n) (d : Direction) : List Direction := s.directions.takeWhile (· ≠ d)

/-- The first direction of the engine whose starts are refused. -/
structure FirstRefused (s : Installed n) (d : Direction) : Prop where
  /-- The engine uses it. -/
  used : d ∈ s.directions
  /-- Its lane refuses. -/
  refusing : (s.lane d).refusing = true
  /-- No lane before it does. -/
  first : ∀ e ∈ s.before d, (s.lane e).refusing = false

theorem directions_eq_before (h : d ∈ s.directions) :
    ∃ later, s.directions = s.before d ++ d :: later := by
  rw [before]
  rw [directions] at *
  generalize s.engine.config.mode = m at *
  cases m <;> cases d <;> first | exact ⟨_, rfl⟩ | exact absurd h (by decide)

theorem exists_firstRefused (h : ¬∀ d ∈ s.directions, (s.lane d).refusing = false) :
    ∃ d, s.FirstRefused d := by
  rcases hf : s.directions.find? (fun d => (s.lane d).refusing) with _ | d
  · exact absurd (fun d hd => eq_false_of_ne_true (List.find?_eq_none.mp hf d hd)) h
  · obtain ⟨hd, earlier, later, hs, he⟩ := List.find?_eq_some_iff_append.mp hf
    have hearlier : ∀ e ∈ earlier, (s.lane e).refusing = false := fun e h =>
      Bool.not_eq_true' _ ▸ he e h
    refine ⟨d, hs ▸ List.mem_append_right _ List.mem_cons_self, hd, ?_⟩
    -- nobody among the earlier ones refuses, so `d` is not among them
    have hne : ∀ e ∈ earlier, decide (e ≠ d) = true := fun e h =>
      decide_eq_true fun hed => Bool.false_ne_true ((hearlier e h).symm.trans (hed ▸ hd))
    rw [before, hs, List.takeWhile_append_of_pos hne]
    simpa using hearlier

/-! ## The four endings -/

/-- How a start ends, with the whole state that it leaves. -/
inductive StartCase (s : Installed n) : Except StartError Unit → Installed n → Prop where
  /-- A fault was seen before, and nothing happens. -/
  | faulted (seen : s.isFaulted = true) : StartCase s (.error .faulted) s
  /-- The codec fails, before any register is written. -/
  | codec {family : Codec.Family} {address : UInt8} {bus : ControlBus}
      (clear : s.isFaulted = false) (failed : s.CodecFailed family address bus) :
      StartCase s (.error (.codec family address)) (trip { s with rig.bus := some bus })
  /-- A lane is refused, with the lanes before it running and the block not. -/
  | lane {codec : Option Codec.Status} {bus : Option ControlBus} {d : Direction}
      (clear : s.isFaulted = false) (taken : s.CodecTaken codec bus) (refused : s.FirstRefused d) :
      StartCase s (.error (.dma d)) ((s.withCodec codec bus).arm.withLanes (s.before d ++ [d])).trip
  /-- The lanes run, and so does the block. -/
  | ok {codec : Option Codec.Status} {bus : Option ControlBus} (clear : s.isFaulted = false)
      (taken : s.CodecTaken codec bus)
      (accepted : ∀ d ∈ s.directions, (s.lane d).refusing = false) :
      StartCase s (.ok ()) ((s.withCodec codec bus).arm.withLanes s.directions).run

theorem start_of_lanes_ok {u : Installed n} (clear : s.isFaulted = false)
    (prepared : s.prepareCodec = (.ok (), t))
    (lanes : startLanes t.directions t.arm = (.ok (), u)) : s.start = (.ok (), u.run) := by
  rw [start, if_neg (Bool.eq_false_iff.mp clear), prepared]
  dsimp only
  rw [lanes]

theorem start_of_lanes_error {u : Installed n} {e : StartError} (clear : s.isFaulted = false)
    (prepared : s.prepareCodec = (.ok (), t))
    (lanes : startLanes t.directions t.arm = (.error e, u)) : s.start = (.error e, u) := by
  rw [start, if_neg (Bool.eq_false_iff.mp clear), prepared]
  dsimp only
  rw [lanes]

/-- **There is no other ending.** -/
theorem start_case (s : Installed n) : StartCase s s.start.1 s.start.2 := by
  cases hf : s.isFaulted with
  | true =>
    rw [start, if_pos hf]
    exact .faulted hf
  | false =>
    by_cases hc : ∃ family address, s.CodecRefuses family address
    · obtain ⟨family, address, hc⟩ := hc
      obtain ⟨bus, failed, hp⟩ := prepareCodec_of_refuses hc
      rw [start, if_neg (Bool.eq_false_iff.mp hf), hp]
      exact .codec hf failed
    · obtain ⟨codec, bus, taken, hp⟩ := prepareCodec_of_not_refuses fun family address h =>
        hc ⟨family, address, h⟩
      -- neither the codec nor the block has a part in the lanes, so they may be asked beforehand
      by_cases ha : ∀ d ∈ s.directions, (s.lane d).refusing = false
      · have hl := startLanes_of_not_refusing (s := (s.withCodec codec bus).arm) ha
        rw [start_of_lanes_ok hf hp hl]
        exact .ok hf taken ha
      · obtain ⟨d, refused⟩ := exists_firstRefused ha
        obtain ⟨later, hd⟩ := directions_eq_before refused.used
        have hl : startLanes (s.before d ++ d :: later) (s.withCodec codec bus).arm = (_, _) :=
          startLanes_of_refusing refused.first refused.refusing
        rw [← hd] at hl
        rw [start_of_lanes_error hf hp hl]
        exact .lane hf taken refused

/-! ## What one start leaves -/

/-- What a start that the codec ended leaves as it was. -/
structure CodecFailure (s t : Installed n) : Prop where
  /-- The registers, the guard and the log. -/
  peripheral : t.rig.peripheral = s.rig.peripheral
  /-- The lanes and the records of the controller. -/
  dma : t.rig.transport.dma = s.rig.transport.dma
  /-- What is known about the codec. -/
  codec : t.engine.codec = s.engine.codec

/-- What a start leaves that ended with the lane of `d`. -/
structure LaneFailure (s : Installed n) (d : Direction) (t : Installed n) : Prop where
  /-- The codec is seen to. -/
  codec : s.CodecTaken t.engine.codec t.rig.bus
  /-- The block was armed and nothing else. -/
  peripheral : t.rig.peripheral =
    s.rig.peripheral.armDma s.engine.config.mode s.engine.config.chunk
  /-- So the log grew by that session and no other. -/
  log : t.rig.peripheral.log = s.rig.peripheral.log ++
    s.rig.peripheral.armSession s.engine.config.mode s.engine.config.chunk
  /-- The directions were asked in turn, down to the one that was refused. -/
  starts : t.rig.transport.dma.starts = s.rig.transport.dma.starts ++ s.before d ++ [d]
  /-- Nothing was cancelled. -/
  cancels : t.rig.transport.dma.cancels = s.rig.transport.dma.cancels
  /-- The lanes before it run, and none of them is about to stop. -/
  running : ∀ e ∈ s.before d, (t.lane e).active = true ∧ (t.lane e).cancelling = false
  /-- The lane that was refused is as it was. -/
  refused : t.lane d = s.lane d
  /-- So is every lane that was not asked. -/
  others : ∀ e, e ∉ s.before d → t.lane e = s.lane e

/-- What a start leaves that went through. -/
structure Streams (s t : Installed n) : Prop where
  /-- The codec is seen to. -/
  codec : s.CodecTaken t.engine.codec t.rig.bus
  /-- The engine is not asked to stop any more. -/
  cancelRequested : t.engine.cancelRequested = false
  /-- The block was armed and then let run. -/
  peripheral : t.rig.peripheral =
    (s.rig.peripheral.armDma s.engine.config.mode s.engine.config.chunk).enable
      s.engine.config.mode
  /-- So the log grew by these two sessions. -/
  log : t.rig.peripheral.log = s.rig.peripheral.log ++
    s.rig.peripheral.armSession s.engine.config.mode s.engine.config.chunk ++
    (s.rig.peripheral.armDma s.engine.config.mode s.engine.config.chunk).enableSession
      s.engine.config.mode
  /-- Every direction was asked in turn. -/
  starts : t.rig.transport.dma.starts = s.rig.transport.dma.starts ++ s.directions
  /-- Nothing was cancelled. -/
  cancels : t.rig.transport.dma.cancels = s.rig.transport.dma.cancels
  /-- Every lane of the engine runs, and none of them is about to stop. -/
  running : ∀ e ∈ s.directions, (t.lane e).active = true ∧ (t.lane e).cancelling = false
  /-- A lane that the engine does not use is as it was. -/
  others : ∀ e, e ∉ s.directions → t.lane e = s.lane e

/-- A lane that was asked and does not refuse runs, whatever it did before. -/
theorem running_withLanes (hd : d ∈ ds) (h : (s.lane d).refusing = false) :
    ((s.withLanes ds).lane d).active = true ∧ ((s.withLanes ds).lane d).cancelling = false := by
  rw [lane_withLanes, if_pos hd, Lane.start_of_not_refusing h]
  exact ⟨rfl, rfl⟩

theorem laneFailure_of_refused {codec bus} (taken : s.CodecTaken codec bus)
    (refused : s.FirstRefused d) :
    s.LaneFailure d ((s.withCodec codec bus).arm.withLanes (s.before d ++ [d])).trip := by
  have self : ((s.withCodec codec bus).arm.withLanes (s.before d ++ [d])).lane d = s.lane d := by
    rw [lane_withLanes, if_pos (List.mem_append_right _ List.mem_cons_self)]
    exact Lane.start_of_refusing refused.refusing
  exact
    { codec := taken
      peripheral := rfl
      log := Peripheral.log_armDma
      starts := Dma.starts_startAll.trans (List.append_assoc ..).symm
      cancels := Dma.cancels_startAll
      running := by
        intro e he
        exact running_withLanes (s := (s.withCodec codec bus).arm) (List.mem_append_left _ he)
          (refused.first e he)
      refused := self
      others := by
        intro e he
        by_cases hed : e = d
        · subst hed
          exact self
        · refine lane_withLanes.trans (if_neg fun h => ?_)
          rcases List.mem_append.mp h with h | h
          · exact he h
          · exact hed (List.mem_singleton.mp h) }

theorem streams_of_accepted {codec bus} (taken : s.CodecTaken codec bus)
    (accepted : ∀ d ∈ s.directions, (s.lane d).refusing = false) :
    s.Streams ((s.withCodec codec bus).arm.withLanes s.directions).run where
  codec := taken
  cancelRequested := rfl
  peripheral := rfl
  log := Peripheral.log_enable.trans (congrArg (· ++ _) Peripheral.log_armDma)
  starts := Dma.starts_startAll
  cancels := Dma.cancels_startAll
  running := by
    intro e he
    exact running_withLanes (s := (s.withCodec codec bus).arm) he (accepted e he)
  others := by
    intro e he
    exact lane_withLanes.trans (if_neg he)

/-! ## Which ending it is -/

theorem CodecRefuses.unique {family family' address address'} (h : s.CodecRefuses family address)
    (h' : s.CodecRefuses family' address') : family = family' ∧ address = address' := by
  obtain ⟨-, bus, -, ha, rfl, -⟩ := h
  obtain ⟨-, bus', -, ha', rfl, -⟩ := h'
  cases ha.symm.trans ha'
  exact ⟨rfl, rfl⟩

/-- Of two directions one is served before the other. -/
theorem mem_before_or {d' : Direction} (hd : d ∈ s.directions) (hd' : d' ∈ s.directions)
    (hne : d ≠ d') : d ∈ s.before d' ∨ d' ∈ s.before d := by
  rw [before, before]
  rw [directions] at *
  generalize s.engine.config.mode = m at *
  revert hd hd' hne
  cases m <;> cases d <;> cases d' <;> decide

theorem FirstRefused.unique {d' : Direction} (h : s.FirstRefused d) (h' : s.FirstRefused d') :
    d = d' := by
  refine Decidable.byContradiction fun hne => ?_
  rcases mem_before_or h.used h'.used hne with hb | hb
  · exact Bool.false_ne_true ((h'.first d hb).symm.trans h.refusing)
  · exact Bool.false_ne_true ((h.first d' hb).symm.trans h'.refusing)

theorem start_ne_faulted (clear : s.isFaulted = false) : s.start.1 ≠ .error .faulted := by
  have ending := start_case s
  generalize s.start.1 = r, s.start.2 = t at ending
  cases ending with
  | faulted seen => exact absurd (clear.symm.trans seen) Bool.false_ne_true
  | codec _ _ => exact nofun
  | lane _ _ _ => exact nofun
  | ok _ _ _ => exact nofun

theorem start_eq_codec_iff (clear : s.isFaulted = false) {family address} :
    s.start.1 = .error (.codec family address) ↔ s.CodecRefuses family address := by
  have ending := start_case s
  generalize s.start.1 = r, s.start.2 = t at ending
  cases ending with
  | faulted seen => exact absurd (clear.symm.trans seen) Bool.false_ne_true
  | codec _ failed =>
    constructor
    · intro h
      cases h
      exact failed.refuses
    · intro h
      obtain ⟨rfl, rfl⟩ := failed.refuses.unique h
      rfl
  | lane _ taken _ => exact ⟨nofun, fun h => absurd h taken.not_refuses⟩
  | ok _ taken _ => exact ⟨nofun, fun h => absurd h taken.not_refuses⟩

theorem start_eq_dma_iff (clear : s.isFaulted = false) :
    s.start.1 = .error (.dma d) ↔
      (∀ family address, ¬s.CodecRefuses family address) ∧ s.FirstRefused d := by
  have ending := start_case s
  generalize s.start.1 = r, s.start.2 = t at ending
  cases ending with
  | faulted seen => exact absurd (clear.symm.trans seen) Bool.false_ne_true
  | codec _ failed => exact ⟨nofun, fun h => absurd failed.refuses (h.1 _ _)⟩
  | lane _ taken refused =>
    constructor
    · intro h
      cases h
      exact ⟨fun _ _ => taken.not_refuses, refused⟩
    · intro h
      rw [refused.unique h.2]
  | ok _ _ accepted =>
    refine ⟨nofun, fun h => ?_⟩
    exact absurd ((accepted d h.2.used).symm.trans h.2.refusing) Bool.false_ne_true

theorem start_eq_ok_iff (clear : s.isFaulted = false) :
    s.start.1 = .ok () ↔ (∀ family address, ¬s.CodecRefuses family address) ∧
      ∀ d ∈ s.directions, (s.lane d).refusing = false := by
  have ending := start_case s
  generalize s.start.1 = r, s.start.2 = t at ending
  cases ending with
  | faulted seen => exact absurd (clear.symm.trans seen) Bool.false_ne_true
  | codec _ failed => exact ⟨nofun, fun h => absurd failed.refuses (h.1 _ _)⟩
  | lane _ _ refused =>
    refine ⟨nofun, fun h => ?_⟩
    exact absurd ((h.2 _ refused.used).symm.trans refused.refusing) Bool.false_ne_true
  | ok _ taken accepted => exact ⟨fun _ => ⟨fun _ _ => taken.not_refuses, accepted⟩, fun _ => rfl⟩

theorem codecFailure_start {family address} (h : s.start.1 = .error (.codec family address)) :
    s.CodecFailure s.start.2 := by
  have ending := start_case s
  generalize s.start.1 = r, s.start.2 = t at ending h ⊢
  cases ending with
  | codec _ _ => exact ⟨rfl, rfl, rfl⟩
  | _ => exact nomatch h

theorem laneFailure_start (h : s.start.1 = .error (.dma d)) : s.LaneFailure d s.start.2 := by
  have ending := start_case s
  generalize s.start.1 = r, s.start.2 = t at ending h ⊢
  cases ending with
  | lane _ taken refused =>
    cases h
    exact laneFailure_of_refused taken refused
  | _ => exact nomatch h

theorem streams_start (h : s.start.1 = .ok ()) : s.Streams s.start.2 := by
  have ending := start_case s
  generalize s.start.1 = r, s.start.2 = t at ending h ⊢
  cases ending with
  | ok _ taken accepted => exact streams_of_accepted taken accepted
  | _ => exact nomatch h

/-- **The outcome of a start and all that it does.** An engine that saw no fault fails at the codec,
fails at a lane or starts; which of them happens is decided by the codec and the lanes as they are
before, and each of them changes what its structure says and nothing else. -/
theorem start_effect (clear : s.isFaulted = false) :
    s.start.1 ≠ .error .faulted ∧
      (∀ family address,
        (s.start.1 = .error (.codec family address) ↔ s.CodecRefuses family address) ∧
          (s.start.1 = .error (.codec family address) → s.CodecFailure s.start.2)) ∧
      (∀ d, (s.start.1 = .error (.dma d) ↔
          (∀ family address, ¬s.CodecRefuses family address) ∧ s.FirstRefused d) ∧
        (s.start.1 = .error (.dma d) → s.LaneFailure d s.start.2)) ∧
      (s.start.1 = .ok () ↔ (∀ family address, ¬s.CodecRefuses family address) ∧
        ∀ d ∈ s.directions, (s.lane d).refusing = false) ∧
      (s.start.1 = .ok () → s.Streams s.start.2) :=
  ⟨start_ne_faulted clear,
    fun _ _ => ⟨start_eq_codec_iff clear, codecFailure_start⟩,
    fun _ => ⟨start_eq_dma_iff clear, laneFailure_start⟩,
    start_eq_ok_iff clear, streams_start⟩

/-- A duplex engine that is about to stop, and is refused its second lane from then on. -/
def halfRefused : Installed 1 :=
  (alone .duplex .probe none).after [.start, .cancel, .refuse .receive]

/-- Its next start takes the first lane back and leaves the second one to stop. -/
theorem start_effect_refused :
    halfRefused.isFaulted = false ∧ halfRefused.start.1 = .error (.dma .receive) ∧
      halfRefused.LaneFailure .receive halfRefused.start.2 ∧
      (halfRefused.start.2.lane .transmit).cancelling = false ∧
      (halfRefused.start.2.lane .receive).cancelling = true := by
  have clear : halfRefused.isFaulted = false := rfl
  have refused : halfRefused.start.1 = .error (.dma .receive) := rfl
  exact ⟨clear, refused, ((start_effect clear).2.2.1 .receive).2 refused, rfl, rfl⟩

end Installed

end SerialAudio
