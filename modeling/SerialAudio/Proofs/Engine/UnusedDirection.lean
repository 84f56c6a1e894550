import SerialAudio.Proofs.Engine.CodecOnce
import SerialAudio.Proofs.Engine.Hearing
import SerialAudio.Proofs.Engine.Removal
/-!
# The direction that is not used

A mode that carries one direction has to keep its hands off the other one, and that is promised in
many places: the mode is asked when the pins are routed, when the request levels are lowered, when
the block is let run, when the lanes are started and cancelled, and when the codec is brought up.
Nothing checks the whole.

Each of these is a step that leaves something alone, and what is left alone stays so along a run.
`Peripheral.Spares` says it of the block, `Dma.Spares` of the controller, and both compose. Neither
is about the mode: a direction counts as spared if nothing is seen of it.

The stream needs no step of its own. It sees the transfers that were somebody's turn, and on a lane
that is idle throughout there are none.

## Main results

* `spares_armDma`, `spares_enable`, `spares_shutDown` — what the sessions of the block leave alone
* `spares_step`, `spares_after` — what an act and a history leave alone
* `unused_direction_untouched` — a direction that the mode does not use, from building to removing
-/

namespace SerialAudio

open Register Event

/-! ## The block -/

namespace Peripheral

variable {p q r : Peripheral} {d : Direction} {m : Mode} {c : Chunk} {role : Role} {o : Pinout}
  {v : UInt32}

/-- A direction is left alone between two states of the block, and does not run in the second. -/
structure Spares (d : Direction) (p q : Peripheral) : Prop where
  /-- No word that was written to the control register lets it run. -/
  log : ∃ added, q.log = p.log ++ added ∧
    ∀ v, .write .controlStatus v ∈ added → v &&& ControlStatus.streamBits d = 0
  /-- It does not run. -/
  off : q.read .controlStatus &&& ControlStatus.streamBits d = 0
  /-- Its request level is what it was. -/
  level : RequestLevel.level d (q.read .dmaRequest) = RequestLevel.level d (p.read .dmaRequest)

theorem Spares.refl (off : p.read .controlStatus &&& ControlStatus.streamBits d = 0) :
    Spares d p p :=
  ⟨⟨[], (List.append_nil _).symm, fun _ h => nomatch h⟩, off, rfl⟩

theorem Spares.trans (h : Spares d p q) (h' : Spares d q r) : Spares d p r := by
  obtain ⟨first, hfirst, mute⟩ := h.log
  obtain ⟨second, hsecond, mute'⟩ := h'.log
  refine ⟨⟨first ++ second, ?_, fun v hv => ?_⟩, h'.off, h'.level.trans h.level⟩
  · rw [hsecond, hfirst, List.append_assoc]
  · rcases List.mem_append.mp hv with hv | hv
    · exact mute v hv
    · exact mute' v hv

/-- Bits are masked out of a word exactly if they are masked out of what it was made of. -/
theorem or_and_eq_zero {w b k : UInt32} (hw : w &&& k = 0) (hb : b &&& k = 0) :
    (w ||| b) &&& k = 0 := by
  rw [RequestLevel.or_and_distrib, hw, hb, UInt32.or_zero]

theorem enableBits_and_streamBits (unused : m.uses d = false) :
    ControlStatus.enableBits m &&& ControlStatus.streamBits d = 0 := by
  cases m <;> cases d <;> first | decide | cases unused

/-- Arming writes one word to the control register. -/
theorem control_of_mem_armSession (h : .write .controlStatus v ∈ p.armSession m c) :
    v = p.read .controlStatus ||| ControlStatus.dmaEnable := by
  rcases List.mem_cons.mp h with h | h
  · cases h
  rcases List.mem_append.mp h with h | h
  · obtain ⟨w, hw⟩ := mem_levelWrites h
    cases hw
  · simpa using h

/-- So does letting the block run. -/
theorem control_of_mem_enableSession (h : .write .controlStatus v ∈ p.enableSession m) :
    v = p.read .controlStatus ||| ControlStatus.enableBits m := by
  simpa [enableSession] using h

theorem spares_armDma (off : p.read .controlStatus &&& ControlStatus.streamBits d = 0)
    (unused : m.uses d = false) : Spares d p (p.armDma m c) := by
  have bits : ControlStatus.dmaEnable &&& ControlStatus.streamBits d = 0 := by
    cases d <;> decide
  have short : d ∉ shortDirections m c := by
    rw [mem_shortDirections, unused, Bool.and_false]
    exact Bool.false_ne_true
  refine ⟨⟨_, log_armDma, fun v hv => ?_⟩, ?_, ?_⟩
  · rw [control_of_mem_armSession hv]
    exact or_and_eq_zero off bits
  · rw [read_controlStatus_armDma]
    exact or_and_eq_zero off bits
  · rw [read, registers_armDma, RegisterFile.get_set_of_ne (by decide), RegisterFile.get_set_self,
      RequestLevel.level_loweredLevels, if_neg short]

theorem spares_enable (off : p.read .controlStatus &&& ControlStatus.streamBits d = 0)
    (unused : m.uses d = false) : Spares d p (p.enable m) := by
  have bits := enableBits_and_streamBits unused
  refine ⟨⟨_, log_enable, fun v hv => ?_⟩, ?_, ?_⟩
  · rw [control_of_mem_enableSession hv]
    exact or_and_eq_zero off bits
  · rw [read_controlStatus_enable]
    exact or_and_eq_zero off bits
  · rw [read, registers_enable, RegisterFile.get_set_of_ne (by decide)]
    rfl

/-- A block that was shut down runs in no direction. -/
theorem spares_shutDown : Spares d p (p.shutDown m role o) := by
  refine ⟨⟨_, log_shutDown, fun v hv => ?_⟩, ?_, ?_⟩
  · have zero : v = 0 := by
      cases role <;> simpa [shutDownSession] using hv
    rw [zero, UInt32.zero_and]
  · rw [read, registers_shutDown, RegisterFile.get_set_self, UInt32.zero_and]
  · rw [read, registers_shutDown, RegisterFile.get_set_of_ne (by decide)]
    rfl

end Peripheral

/-! ## The controller -/

namespace Dma

variable {η : Type} {c c' c'' : Dma η} {d e : Direction} {ds : List Direction} {h : η}

/-- A direction is left alone between two states of the controller, and its lane is idle in the
second. -/
structure Spares (d : Direction) (c c' : Dma η) : Prop where
  /-- It was not asked to start. -/
  starts : c'.starts.count d = c.starts.count d
  /-- It was not cancelled. -/
  cancels : c'.cancels.count d = c.cancels.count d
  /-- There is nobody to call. -/
  idle : (c'.lane d).Idle

theorem Spares.refl (idle : (c.lane d).Idle) : Spares d c c := ⟨rfl, rfl, idle⟩

theorem Spares.trans (h : Spares d c c') (h' : Spares d c' c'') : Spares d c c'' :=
  ⟨h'.starts.trans h.starts, h'.cancels.trans h.cancels, h'.idle⟩

theorem spares_startAll (idle : (c.lane d).Idle) (other : d ∉ ds) :
    Spares d c (c.startAll h ds) where
  starts := by
    rw [starts_startAll, List.count_append, List.count_eq_zero.mpr other, Nat.add_zero]
  cancels := by rw [cancels_startAll]
  idle := by
    rw [lane_startAll, if_neg other]
    exact idle

theorem spares_cancelAll (idle : (c.lane d).Idle) (other : d ∉ ds) :
    Spares d c (ds.foldl Dma.cancel c) where
  starts := by rw [starts_cancelAll]
  cancels := by
    rw [cancels_cancelAll, List.count_append, List.count_eq_zero.mpr other, Nat.add_zero]
  idle := by
    rw [lane_cancelAll, if_neg other]
    exact idle

/-- A lane whose starts are refused is as idle as it was. -/
theorem spares_refuse (idle : (c.lane d).Idle) : Spares d c (c.refuse e) where
  starts := by rw [refuse, starts_setLane]
  cancels := by rw [refuse, cancels_setLane]
  idle := by
    rw [lane_refuse]
    split
    · exact ⟨idle.handler, idle.active, idle.cancelling⟩
    · exact idle

/-- So is a lane that is given a turn. -/
theorem spares_takeTurn (idle : (c.lane d).Idle) : Spares d c (c.takeTurn e).2 where
  starts := by rw [starts_takeTurn]
  cancels := by rw [cancels_takeTurn]
  idle := by
    rw [lane_takeTurn, Lane.turn_of_not_active idle.active]
    split <;> exact idle

end Dma

/-! ## Engines -/

namespace Installed

variable {n : Nat} {rig rig' : Rig n} {config : Config} {link : Fin n} {wired : Bool}
  {engine : Engine n} {s t u : Installed n} {d : Direction} {x : Transfer} {a : Act}
  {acts : List Act} {o : Outcome} {p : Peripheral}

/-- The words that bringing the block up writes to the control register let no direction run. -/
theorem mute_openingSteps {v : UInt32} {divisor : Option Divisor}
    (h : .write .controlStatus v ∈ openingSteps config divisor) :
    v &&& ControlStatus.streamBits d = 0 := by
  have clock : .write .controlStatus v ∉ clockSteps divisor := by
    intro h
    obtain ⟨d, hd⟩ := mem_clockSteps h
    cases hd
  have session := (List.mem_append.mp h).resolve_left clock
  have words : v = 0 ∨ v = ControlStatus.clearPlayback ||| ControlStatus.clearCapture ∨
      v = ControlStatus.clearPlayback ||| ControlStatus.clearCapture ||| ControlStatus.standby ∨
      v = Peripheral.restingControl := by
    simpa [Peripheral.configureSession, Peripheral.formatSteps, Peripheral.wakeSteps, or_assoc]
      using session
  rcases words with rfl | rfl | rfl | rfl <;> cases d <;> decide

/-- Building leaves both directions alone. -/
theorem spares_of_install_eq_ok (built : rig.install config link wired = (.ok engine, rig')) :
    Peripheral.Spares d rig.peripheral rig'.peripheral := by
  obtain ⟨divisor, -, log, -⟩ := log_of_install_eq_ok built
  have registers := registers_of_install_eq_ok built
  refine ⟨⟨_, log, fun v => mute_openingSteps⟩, ?_, ?_⟩
  · rw [Peripheral.read, registers]
    show controlWord config.mode false false &&& _ = 0
    cases config.mode <;> cases d <;> decide
  · rw [Peripheral.read, registers]
    rfl

/-- A direction is left alone between two states of an engine. -/
structure Spares (d : Direction) (s t : Installed n) : Prop where
  /-- By the controller. -/
  controller : Dma.Spares d s.rig.transport.dma t.rig.transport.dma
  /-- By the block. -/
  block : Peripheral.Spares d s.rig.peripheral t.rig.peripheral

theorem Spares.trans (h : Spares d s t) (h' : Spares d t u) : Spares d s u :=
  ⟨h.controller.trans h'.controller, h.block.trans h'.block⟩

theorem PeripheralCase.spares (touched : PeripheralCase s o p)
    (off : s.rig.peripheral.read .controlStatus &&& ControlStatus.streamBits d = 0)
    (unused : s.engine.config.mode.uses d = false) : Peripheral.Spares d s.rig.peripheral p := by
  cases touched with
  | kept _ _ => exact .refl off
  | armed => exact Peripheral.spares_armDma off unused
  | ran =>
    have armed := Peripheral.spares_armDma (c := s.engine.config.chunk) off unused
    exact armed.trans (Peripheral.spares_enable armed.off unused)

/-- A start asks for directions of the engine. -/
theorem spares_dma_start (idle : (s.lane d).Idle) (unused : d ∉ s.directions) :
    Dma.Spares d s.rig.transport.dma s.start.2.rig.transport.dma := by
  have ending := start_case s
  generalize s.start.1 = r, s.start.2 = t at ending ⊢
  cases ending with
  | faulted _ => exact .refl idle
  | codec _ _ => exact .refl idle
  | @lane codec bus e _ _ refused =>
    obtain ⟨later, asked⟩ := directions_eq_before refused.used
    refine Dma.spares_startAll idle fun he => unused ?_
    rw [asked, List.append_cons]
    exact List.mem_append_left _ he
  | ok _ _ _ => exact Dma.spares_startAll idle unused

theorem spares_dma_step (idle : (s.lane d).Idle) (unused : d ∉ s.directions) :
    Dma.Spares d s.rig.transport.dma (s.step a).2.rig.transport.dma := by
  cases a with
  | start => exact spares_dma_start idle unused
  | cancel => exact Dma.spares_cancelAll idle unused
  | refuse e => exact Dma.spares_refuse idle
  | finish e buffer =>
    show Dma.Spares d _ (s.rig.transport.complete e (.finished buffer)).2.dma
    rw [Transport.dma_complete]
    exact Dma.spares_takeTurn idle
  | fail e =>
    show Dma.Spares d _ (s.rig.transport.complete e (.failed [])).2.dma
    rw [Transport.dma_complete]
    exact Dma.spares_takeTurn idle

theorem not_mem_directions (unused : s.engine.config.mode.uses d = false) : d ∉ s.directions := by
  rw [directions, Mode.mem_directions, unused]
  exact Bool.false_ne_true

/-- **An act leaves a direction alone that is idle and is not the engine's.** -/
theorem spares_step (idle : (s.lane d).Idle)
    (off : s.rig.peripheral.read .controlStatus &&& ControlStatus.streamBits d = 0)
    (unused : s.engine.config.mode.uses d = false) : Spares d s (s.step a).2 :=
  ⟨spares_dma_step idle (not_mem_directions unused), (peripheral_case s a).spares off unused⟩

theorem spares_after (idle : (s.lane d).Idle)
    (off : s.rig.peripheral.read .controlStatus &&& ControlStatus.streamBits d = 0)
    (unused : s.engine.config.mode.uses d = false) : Spares d s (s.after acts) := by
  induction acts generalizing s with
  | nil => exact ⟨.refl idle, .refl off⟩
  | cons a acts ih =>
    have first := spares_step (a := a) idle off unused
    exact first.trans (ih first.controller.idle first.block.off (config_step.symm ▸ unused))

/-- A transfer on an idle lane asks the stream for nothing. -/
theorem direction_ne_of_mem_calls (idle : (s.lane d).Idle) {c : SampleStream.Call}
    (h : c ∈ Act.calls (a, (s.step a).1)) : c.direction ≠ d := by
  cases a with
  | start | cancel | refuse | fail => cases h
  | finish e buffer =>
    change c ∈ Act.calls (.finish e buffer, .delivered (s.complete e (.finished buffer)).1) at h
    by_cases he : e = d
    · subst he
      rw [complete_of_idle idle.active] at h
      cases h
    · generalize (s.complete e (.finished buffer)).1 = v at h
      cases v with
      | none => cases h
      | some v =>
        rw [List.mem_singleton.mp h]
        exact he

theorem direction_ne_of_mem_callsOf (idle : (s.lane d).Idle)
    (unused : s.engine.config.mode.uses d = false) {c : SampleStream.Call}
    (h : c ∈ Act.callsOf (s.transcript acts)) : c.direction ≠ d := by
  induction acts generalizing s with
  | nil => cases h
  | cons a acts ih =>
    rcases List.mem_append.mp h with first | rest
    · exact direction_ne_of_mem_calls idle first
    · have spared := spares_dma_step (a := a) idle (not_mem_directions unused)
      exact ih spared.idle (config_step.symm ▸ unused) rest

/-! ## A whole life -/

/-- The pins that building connects and removing turns into inputs, and no others. -/
theorem routes_of_life (built : rig.install config link wired = (.ok engine, rig'))
    (acts : List Act) :
    let living := (⟨engine, rig'⟩ : Installed n).after acts
    routes (rig'.peripheral.since rig.peripheral) =
        (config.pinout.pins config.mode).map (·, config.pinout.function) ∧
      routes (living.rig.peripheral.since rig'.peripheral) = [] ∧
      routes (living.remove.peripheral.since living.rig.peripheral) =
        (config.pinout.pins config.mode).map (·, .input) := by
  intro living
  obtain ⟨divisor, added, -, taken, given, -⟩ := log_of_life built acts
  obtain ⟨lived, log, inside, -⟩ := lived_after ⟨engine, rig'⟩ acts
  refine ⟨?_, ?_, ?_⟩
  · rw [taken, routes_openingSteps]
  · rw [since_of_log_eq log]
    exact routes_of_inside inside
  · rw [given, Peripheral.routes_shutDownSession]

/-- The pins of a mode that carries one direction. -/
theorem pins_of_unused {m : Mode} {pinout : Pinout} (unused : m.uses d = false) :
    pinout.pins m = [pinout.clock, pinout.frameSync,
      if d = .transmit then pinout.dataIn else pinout.dataOut] := by
  cases m <;> cases d <;> first | rfl | cases unused

/-- **A direction that the mode does not use is left alone**, by an engine on a controller where
nothing runs, from its building to its removing and whatever happens in between. The direction is
never asked to start and never cancelled, its lane has nobody to call, and a transfer that ends
there is nobody's turn. The stream is asked for nothing in it. No word that is written to the
control register lets it run, and its request level is the one that was found. The pins that are
connected and turned back into inputs are the two clocks and the data of the other direction, in
this order. If it is playback that is not used, the control bus is left alone as well, and nothing
is known about a codec. -/
theorem unused_direction_untouched
    (built : rig.install config link wired = (.ok engine, rig'))
    (idle : ∀ e, (rig.transport.dma.lane e).Idle) (unused : config.mode.uses d = false)
    (acts : List Act) :
    let s : Installed n := ⟨engine, rig'⟩
    let living := s.after acts
    let removed := living.remove
    let found := rig.transport.dma
    let left := living.rig.transport.dma
    let calls := Act.callsOf (s.transcript acts)
    let level := RequestLevel.level d
    let pins := [config.pinout.clock, config.pinout.frameSync,
      if d = .transmit then config.pinout.dataIn else config.pinout.dataOut]
    (left.starts.count d = found.starts.count d ∧ left.cancels.count d = found.cancels.count d) ∧
      ((left.lane d).hasHandler = false ∧ ∀ x, living.complete d x = (none, living)) ∧
      (living.endpoint.stream = (rig.transport.endpoint link).stream.afterCalls calls ∧
        ∀ c ∈ calls, c.direction ≠ d) ∧
      (∀ v, .write .controlStatus v ∈ removed.peripheral.since rig.peripheral →
        v &&& ControlStatus.streamBits d = 0) ∧
      (level (living.rig.peripheral.read .dmaRequest) = level (rig.peripheral.read .dmaRequest) ∧
        level (removed.peripheral.read .dmaRequest) = level (rig.peripheral.read .dmaRequest)) ∧
      (routes (rig'.peripheral.since rig.peripheral) = pins.map (·, config.pinout.function) ∧
        routes (living.rig.peripheral.since rig'.peripheral) = [] ∧
        routes (removed.peripheral.since living.rig.peripheral) = pins.map (·, .input)) ∧
      (d = .transmit →
        living.rig.bus = rig.bus ∧ removed.bus = rig.bus ∧ living.engine.codec = none) := by
  intro s living removed found left calls level pins
  obtain ⟨hengine, transport, -⟩ := of_install_eq_ok built
  have unused' : s.engine.config.mode.uses d = false := by
    rw [show s.engine = _ from hengine]
    exact unused
  have idle' : (s.lane d).Idle := by
    rw [lane, transport]
    exact idle d
  have opened : Peripheral.Spares d rig.peripheral s.rig.peripheral := spares_of_install_eq_ok built
  have lived : Spares d s living := spares_after idle' opened.off unused'
  have closed : Peripheral.Spares d living.rig.peripheral removed.peripheral := by
    rw [show removed.peripheral = _ from peripheral_remove built acts]
    exact Peripheral.spares_shutDown
  have life := (opened.trans lived.block).trans closed
  have controller : Dma.Spares d found left := by
    have spared := lived.controller
    rw [show s.rig.transport.dma = found from congrArg Transport.dma transport] at spared
    exact spared
  refine ⟨⟨controller.starts, controller.cancels⟩,
    ⟨congrArg Option.isSome controller.idle.handler, fun x => ?_⟩, ⟨?_, fun c hc => ?_⟩, ?_,
    ⟨(opened.trans lived.block).level, life.level⟩, ?_, fun playback => ?_⟩
  · exact complete_of_idle controller.idle.active
  · have served : s.Served := served_of_install_eq_ok built (Transport.serves_of_idle idle)
    rw [← endpoint_of_install_eq_ok built]
    exact (hears_after served acts).stream_eq
  · exact direction_ne_of_mem_callsOf idle' unused' hc
  · obtain ⟨added, log, mute⟩ := life.log
    rw [since_of_log_eq log]
    exact mute
  · have pinned := routes_of_life built acts
    rw [pins_of_unused unused] at pinned
    exact pinned
  · subst playback
    have same : s.SameCodec living :=
      (settled_of_install_eq_ok built (.inl unused)).sameCodec_after
    have bus : living.rig.bus = rig.bus := same.bus.trans (bus_of_install_eq_ok built)
    exact ⟨bus, bus, same.codec.trans (congrArg Engine.codec hengine)⟩

/-- An engine that only captures, on a rig with a bus. Transfers for playback end and break down on
it before it is started and while it runs. -/
theorem unused_direction_untouched_capture :
    let bus := FaultPlan.bus {}
    let s := alone .capture .probe (some bus)
    let acts : List Act := [.finish .transmit [1, 2], .start, .fail .transmit, .cancel]
    let living := s.after acts
    (Rig.bare (some bus)).install s.engine.config 0 true = (.ok s.engine, s.rig) ∧
      (∀ d, ((Rig.bare (some bus)).transport.dma.lane d).Idle) ∧
      Mode.capture.uses .transmit = false ∧ living.isActive = true ∧
      living.rig.transport.dma.starts.count .transmit = 0 ∧
      (∀ x, living.complete .transmit x = (none, living)) ∧
      routes (living.remove.peripheral.since living.rig.peripheral) =
        [(18, .input), (19, .input), (20, .input)] ∧
      living.rig.bus = some bus ∧ living.engine.codec = none := by
  intro bus s acts living
  have built : (Rig.bare (some bus)).install s.engine.config 0 true = (.ok s.engine, s.rig) :=
    install_of_following rfl
  have idle : ∀ d, ((Rig.bare (some bus)).transport.dma.lane d).Idle := Rig.fresh_bare.idle
  obtain ⟨⟨starts, -⟩, ⟨-, nobody⟩, -, -, -, ⟨-, -, given⟩, codec⟩ :=
    unused_direction_untouched built idle (d := .transmit) rfl acts
  exact ⟨built, idle, rfl, rfl, starts, nobody, given, (codec rfl).1, (codec rfl).2.2⟩

end Installed

end SerialAudio
