import SerialAudio.Engine.Calls
import SerialAudio.Peripheral.Program
import SerialAudio.Proofs.Engine.Registers
import SerialAudio.Proofs.Peripheral.Discipline
/-!
# The discipline of an engine

From the clock that is started for it to the pins that are given back after it, everything that an
engine does to the block is one log, cut into sessions by the calls of its owner. How many sessions
there are and how far each start comes is not known beforehand, so the discipline of the whole is
shown one session at a time. What carries it from one session to the next is `Alive`: the guard is
free, the block is ready, and it is on.

## Main results

* `alive_of_install_eq_ok`, `PeripheralCase.alive` — an engine that was built is alive, and stays it
* `alive_remove` — it can be removed at any time
* `disciplined_life` — the discipline of an engine from its building to its removal
-/

namespace SerialAudio

open Register Event

/-- What an engine makes of the block while it lives: the log held `found` when it was built, and
`life` was added since. -/
structure Alive (c : Config) (found life : List Event) (p : Peripheral) : Prop where
  /-- Nothing but the engine does anything to the block. -/
  log : p.log = found ++ life
  /-- The guard was given back, -/
  depth : p.depth = 0
  /-- and the log shows it. -/
  free : unreleased life = []
  /-- What was done so far was allowed. -/
  disciplined : Disciplined c life
  /-- The pins are routed, and the clock runs. -/
  ready : Ready c life
  /-- The block is on. -/
  on : p.read .controlStatus &&& ControlStatus.on = ControlStatus.on

variable {n : Nat} {rig rig' : Rig n} {config : Config} {link : Fin n} {wired : Bool}
  {engine : Engine n} {s : Installed n} {c : Config}
  {found life session : List Event} {p q : Peripheral}

/-! ## Sessions of a living engine -/

/-- One more session, if it is one. -/
theorem Alive.grow (h : Alive c found life p) (log : q.log = p.log ++ session)
    (depth : q.depth = p.depth)
    (bracketed : Keeps Bracketed life session ∧ unreleased (life ++ session) = [])
    (ordered : Keeps (Ordered c) life session ∧ Ready c (life ++ session))
    (on : q.read .controlStatus &&& ControlStatus.on = ControlStatus.on) :
    Alive c found (life ++ session) q where
  log := by rw [log, h.log, List.append_assoc]
  depth := depth.trans h.depth
  free := bracketed.2
  disciplined := disciplined_append.mpr ⟨h.disciplined, bracketed.1, ordered.1⟩
  ready := ordered.2
  on := on

theorem Alive.arm (h : Alive c found life p) :
    Alive c found (life ++ p.armSession c.mode c.chunk) (p.armDma c.mode c.chunk) := by
  refine h.grow Peripheral.log_armDma Peripheral.depth_armDma
    (Peripheral.keeps_bracketed_arm h.free) (Peripheral.keeps_ordered_arm h.ready h.on) ?_
  rw [Peripheral.read_controlStatus_armDma]
  exact ControlStatus.or_and h.on

theorem Alive.enable (h : Alive c found life p)
    (armed : p.read .controlStatus &&& ControlStatus.required = ControlStatus.required) :
    Alive c found (life ++ p.enableSession c.mode) (p.enable c.mode) := by
  refine h.grow Peripheral.log_enable Peripheral.depth_enable
    (Peripheral.keeps_bracketed_enable h.free) (Peripheral.keeps_ordered_enable h.ready armed) ?_
  rw [Peripheral.read_controlStatus_enable]
  exact ControlStatus.or_and h.on

namespace Installed

/-- **An act adds sessions, and the engine stays alive.** -/
theorem PeripheralCase.alive {o : Outcome} (touched : PeripheralCase s o p)
    (h : Alive s.engine.config found life s.rig.peripheral) :
    ∃ life, Alive s.engine.config found life p := by
  cases touched with
  | kept _ _ => exact ⟨life, h⟩
  | armed => exact ⟨_, h.arm⟩
  | ran =>
    -- the second session of the start finds the bit that the first one set
    refine ⟨_, h.arm.enable ?_⟩
    rw [Peripheral.read_controlStatus_armDma]
    exact ControlStatus.or_and_or h.on UInt32.and_self

theorem alive_after (h : Alive s.engine.config found life s.rig.peripheral) (acts : List Act) :
    ∃ life, Alive s.engine.config found life (s.after acts).rig.peripheral := by
  induction acts generalizing s life with
  | nil => exact ⟨life, h⟩
  | cons a acts ih =>
    obtain ⟨grown, step⟩ := (peripheral_case s a).alive h
    rw [← config_step (a := a)] at step
    obtain ⟨life, rest⟩ := ih step
    rw [config_step] at rest
    exact ⟨life, rest⟩

/-! ## The ends of a life -/

/-- What starting the clock adds to the log, if there is a clock to start. -/
def clockSteps (divisor : Option Divisor) : List Event := divisor.toList.map .clockStart

theorem log_startOwnClock {divisor : Option Divisor} :
    (p.startOwnClock divisor).log = p.log ++ clockSteps divisor := by
  cases divisor with
  | none => exact (List.append_nil _).symm
  | some d => rfl

theorem depth_startOwnClock {divisor : Option Divisor} :
    (p.startOwnClock divisor).depth = p.depth := by
  cases divisor <;> rfl

theorem mem_clockSteps {divisor : Option Divisor} {e : Event} (h : e ∈ clockSteps divisor) :
    ∃ d, e = .clockStart d := by
  obtain ⟨d, -, rfl⟩ := List.mem_map.mp h
  exact ⟨d, rfl⟩

/-- Whoever makes the clock has started it, and nothing else was done. -/
theorem prepared_of_divisor_eq_ok {hz : UInt32} {divisor : Option Divisor}
    (h : config.divisor hz = .ok divisor) : Prepared config (clockSteps divisor) where
  kept n f hf := by
    obtain ⟨_, heq⟩ := mem_clockSteps hf
    exact nomatch heq
  clocked master := by
    obtain ⟨-, d, rfl⟩ | ⟨slave, -⟩ := divisor_eq_ok h
    · refine ⟨⟨d, List.mem_singleton_self _⟩, fun hs => ?_⟩
      obtain ⟨_, heq⟩ := mem_clockSteps hs
      exact nomatch heq
    · exact absurd (master.symm.trans slave) nofun

theorem disciplined_clockSteps (divisor : Option Divisor) :
    Disciplined config (clockSteps divisor) ∧ unreleased (clockSteps divisor) = [] := by
  have plain : ∀ e ∈ clockSteps divisor, e.isGuard = false ∧ e.isWrite = false := by
    intro e he
    obtain ⟨d, rfl⟩ := mem_clockSteps he
    exact ⟨rfl, rfl⟩
  obtain ⟨bracketed, free⟩ := keeps_bracketed_unguarded unreleased_nil plain
  have ordered : Keeps (Ordered config) [] (clockSteps divisor) := by
    refine (keeps_of_invariant (fun _ => True) (fun _ e he _ => ?_) trivial).1
    obtain ⟨d, rfl⟩ := mem_clockSteps he
    exact ⟨trivial, trivial⟩
  exact ⟨disciplined_append.mpr ⟨disciplined_nil, bracketed, ordered⟩, free⟩

/-- **An engine that was built is alive.** -/
theorem alive_of_install_eq_ok (built : rig.install config link wired = (.ok engine, rig'))
    (free : rig.peripheral.depth = 0) :
    ∃ life, Alive config rig.peripheral.log life rig'.peripheral := by
  obtain ⟨divisor, hd, hp⟩ := peripheral_of_install_eq_ok built
  obtain ⟨clocked, started⟩ : Disciplined config _ ∧ _ := disciplined_clockSteps divisor
  have never : NeverOn (clockSteps divisor) := by
    intro v hv
    obtain ⟨_, heq⟩ := mem_clockSteps hv
    exact nomatch heq
  obtain ⟨bracketed, released⟩ := Peripheral.keeps_bracketed_configure started config.mode
    config.role config.pinout
  obtain ⟨ordered, ready⟩ :=
    Peripheral.keeps_ordered_configure never (prepared_of_divisor_eq_ok hd)
  refine ⟨clockSteps divisor ++
    Peripheral.configureSession config.mode config.role config.pinout, ?_⟩
  rw [hp]
  exact
    { log := by rw [Peripheral.log_configure, log_startOwnClock, List.append_assoc]
      depth := by rw [Peripheral.depth_configure, depth_startOwnClock, free]
      free := released
      disciplined := disciplined_append.mpr ⟨clocked, bracketed, ordered⟩
      ready := ready
      on := by rw [Peripheral.read_controlStatus_configure]; decide }

/-- **An engine can be removed at any time.** -/
theorem alive_remove (h : Alive s.engine.config found life s.rig.peripheral) :
    ∃ more, s.remove.peripheral.log = found ++ (life ++ more) ∧ s.remove.peripheral.depth = 0 ∧
      Disciplined s.engine.config (life ++ more) := by
  have disciplined := disciplined_append.mpr ⟨h.disciplined,
    Peripheral.keeps_bracketed_shutDown h.free s.engine.config.mode s.engine.config.role
      s.engine.config.pinout,
    Peripheral.keeps_ordered_shutDown⟩
  refine ⟨_, ?_, ?_, disciplined⟩
  · show (Peripheral.shutDown ..).log = _
    rw [Peripheral.log_shutDown, h.log, List.append_assoc]
  · show (Peripheral.shutDown ..).depth = _
    rw [Peripheral.depth_shutDown, h.depth]

theorem since_of_log_eq (h : p.log = q.log ++ life) : p.since q = life := by
  rw [Peripheral.since, h, List.drop_left]

/-- Only a start does anything to the block. -/
theorem peripheral_call {c : Call} (h : c ≠ .act .start) :
    (s.call c).2.rig.peripheral = s.rig.peripheral := by
  cases c with
  | act a =>
    cases a with
    | start => exact absurd rfl h
    | cancel | refuse | finish | fail => rfl
  | read | describe => rfl

/-- **The discipline of an engine.** However its life goes, from being built on a free bus until it
is removed, everything it does to the block is bracketed and in order, the bus is free whenever it
is at rest, and nothing but a start does anything to the block. -/
theorem disciplined_life (built : rig.install config link wired = (.ok engine, rig'))
    (free : rig.peripheral.busFree = true) (calls : List Call) :
    let t := (⟨engine, rig'⟩ : Installed n).afterCalls calls
    let living := t.rig.peripheral
    let removed := t.remove.peripheral
    (rig.peripheral.log <+: living.log ∧ living.log <+: removed.log) ∧
      (Disciplined config (living.since rig.peripheral) ∧
        Disciplined config (removed.since rig.peripheral)) ∧
      (living.busFree = true ∧ removed.busFree = true) ∧
      ∀ c : Call, c ≠ .act .start → (t.call c).2.rig.peripheral = living := by
  intro t living removed
  have hengine : engine.config = config := congrArg Engine.config (of_install_eq_ok built).1
  subst hengine
  obtain ⟨opening, born⟩ := alive_of_install_eq_ok built (of_decide_eq_true free)
  have hconfig : t.engine.config = engine.config := by
    show (afterCalls _ calls).engine.config = _
    rw [afterCalls_eq, config_after]
  obtain ⟨life, alive⟩ : ∃ life, Alive t.engine.config rig.peripheral.log life living := by
    have later := alive_after (s := ⟨engine, rig'⟩) born (calls.filterMap Call.act?)
    rwa [← afterCalls_eq, ← hconfig] at later
  obtain ⟨more, hlog, hdepth, disciplined⟩ := alive_remove alive
  change removed.log = _ at hlog
  have lived : living.since rig.peripheral = life := since_of_log_eq alive.log
  have ended : removed.since rig.peripheral = life ++ more := since_of_log_eq hlog
  rw [lived, ended]
  refine ⟨⟨⟨life, alive.log.symm⟩, more, ?_⟩, ⟨hconfig ▸ alive.disciplined, hconfig ▸ disciplined⟩,
    ⟨decide_eq_true alive.depth, decide_eq_true hdepth⟩, fun _ => peripheral_call⟩
  rw [hlog, alive.log, List.append_assoc]

/-- An engine that makes the clock is refused a lane, is looked at, and is removed. -/
theorem disciplined_life_refused :
    let config : Config :=
      { mode := .duplex, chunk := ⟨32, by decide, by decide⟩, rate := .external 48000 }
    ∃ engine rig', (Rig.bare none).install config 0 true = (.ok engine, rig') ∧
      (Rig.bare none).peripheral.busFree = true ∧
      Disciplined config
        (((⟨engine, rig'⟩ : Installed 1).afterCalls
          [.act (.refuse .receive), .act .start, .read]).remove.peripheral.since
            (Rig.bare none).peripheral) := by
  intro config
  have built : (Rig.bare none).install config 0 true = (.ok _, _) := rfl
  have free : (Rig.bare none).peripheral.busFree = true := rfl
  obtain ⟨-, ⟨-, disciplined⟩, -⟩ :=
    disciplined_life built free [.act (.refuse .receive), .act .start, .read]
  exact ⟨_, _, built, free, disciplined⟩

end Installed

end SerialAudio
