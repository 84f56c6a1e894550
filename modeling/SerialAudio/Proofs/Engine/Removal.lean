import SerialAudio.Proofs.Engine.Discipline
/-!
# What an engine gives back

An engine takes four things when it is built: the clock, if it makes it, the pins of its mode, a
place in the directory and the block itself. It can be removed at any time, and whatever happened to
it since, exactly these are given back.

That the two ends of a life balance is a matter of what lies between them. A start opens sessions on
the bus, but what it writes in them goes to the block: no start connects a pin or touches the clock,
and none of the other acts does anything to the peripheral at all. So the clock and the pins of a
whole life are those of its two ends, and they can be read off the log.

What is not the engine's is not given back either. A lane that still runs goes on running, into an
endpoint that is as it was.

## Main results

* `lived_after` — what a history adds to the log is about the block alone
* `routes_configureSession`, `routes_shutDownSession` — the same pins, in the same order
* `clock_of_life` — the clock of a whole life, started and stopped once by its maker
* `remove_restores` — what is given back by removing an engine
-/

namespace SerialAudio

open Register

namespace Event

/-! ## The clock and the pins of a log -/

/-- Whether an event is about the clock. -/
def isClock : Event → Bool
  | .clockStart _ => true
  | .clockStop => true
  | _ => false

/-- The pin that an event connects, and what it is connected to. -/
def route? : Event → Option (UInt8 × PinFunction)
  | .pin n f => some (n, f)
  | _ => none

/-- The pins that a log connects, oldest first. -/
def routes (log : List Event) : List (UInt8 × PinFunction) := log.filterMap route?

variable {log more : List Event} {ns : List UInt8} {f : PinFunction} {divisor : Option Divisor}

@[simp] theorem routes_append : routes (log ++ more) = routes log ++ routes more :=
  List.filterMap_append

@[simp] theorem routes_pins : routes (ns.map (Event.pin · f)) = ns.map (·, f) := by
  rw [routes, List.filterMap_map]
  exact congrFun (List.filterMap_eq_map' (f := fun n => (n, f))) ns

theorem filter_isClock_of_inside (h : ∀ e ∈ log, e.isOutside = false) :
    log.filter isClock = [] := by
  refine List.filter_eq_nil_iff.mpr fun e he clock => ?_
  have inside := h e he
  cases e with
  | clockStart d => exact nomatch inside
  | clockStop => exact nomatch inside
  | _ => exact nomatch clock

theorem routes_of_inside (h : ∀ e ∈ log, e.isOutside = false) : routes log = [] := by
  refine List.filterMap_eq_nil_iff.mpr fun e he => ?_
  have inside := h e he
  cases e with
  | pin n f => exact nomatch inside
  | _ => rfl

@[simp] theorem filter_isClock_pins : (ns.map (Event.pin · f)).filter isClock = [] := by
  simp [isClock]

end Event

open Event

namespace Peripheral

variable {p : Peripheral} {m : Mode} {role : Role} {o : Pinout}

/-! ## The two ends -/

theorem routes_configureSession :
    routes (configureSession m role o) = (o.pins m).map (·, o.function) := by
  have format : routes (.busEnter :: formatSteps role) = [] := rfl
  have wake : routes (wakeSteps ++ [.busExit]) = [] := rfl
  have split : configureSession m role o = .busEnter :: formatSteps role ++
      (o.pins m).map (Event.pin · o.function) ++ (wakeSteps ++ [.busExit]) := by
    simp [configureSession]
  rw [split, routes_append, routes_append, format, wake, routes_pins, List.nil_append,
    List.append_nil]

theorem filter_isClock_configureSession : (configureSession m role o).filter isClock = [] := by
  simp [configureSession, formatSteps, wakeSteps, isClock]

/-- The clock is stopped behind the write that switches the block off and before any pin. -/
theorem shutDownSession_of_master :
    shutDownSession m .master o = [.busEnter, .write .controlStatus 0, .delayUs standbySettleUs,
      .busExit] ++ .clockStop :: (o.pins m).map (Event.pin · .input) := rfl

theorem routes_shutDownSession :
    routes (shutDownSession m role o) = (o.pins m).map (·, .input) := by
  rw [shutDownSession, routes_append, routes_pins]
  cases role <;> rfl

theorem filter_isClock_shutDownSession :
    (shutDownSession m role o).filter isClock = if role = .master then [.clockStop] else [] := by
  rw [shutDownSession, List.filter_append, filter_isClock_pins, List.append_nil]
  cases role <;> rfl

theorem registers_shutDown :
    (p.shutDown m role o).registers = p.registers.set .controlStatus 0 := by
  cases role <;> simp [shutDown, withBus, stopOwnClock, stopClock, disconnectPins, delayUs]

end Peripheral

namespace Installed

variable {n : Nat} {rig rig' : Rig n} {config : Config} {link : Fin n} {wired : Bool}
  {engine : Engine n} {s : Installed n} {a : Act} {acts : List Act} {o : Outcome}
  {p q r : Peripheral} {divisor : Option Divisor}

/-! ## Between the two ends -/

/-- What was added to the log of a block is about the block alone, and the guard is as it was. -/
structure Lived (p q : Peripheral) (added : List Event) : Prop where
  /-- It was added. -/
  log : q.log = p.log ++ added
  /-- It is about the block. -/
  inside : ∀ e ∈ added, e.isOutside = false
  /-- The guard was given back. -/
  depth : q.depth = p.depth

theorem Lived.nil : Lived p p [] :=
  ⟨(List.append_nil _).symm, fun _ h => absurd h List.not_mem_nil, rfl⟩

theorem Lived.append {first second : List Event} (h : Lived p q first) (h' : Lived q r second) :
    Lived p r (first ++ second) where
  log := by rw [h'.log, h.log, List.append_assoc]
  inside e he := by
    rcases List.mem_append.mp he with he | he
    · exact h.inside e he
    · exact h'.inside e he
  depth := h'.depth.trans h.depth

theorem lived_armDma {m : Mode} {c : Chunk} : Lived p (p.armDma m c) (p.armSession m c) :=
  ⟨Peripheral.log_armDma, fun _ => Peripheral.isOutside_armSession, Peripheral.depth_armDma⟩

theorem lived_enable {m : Mode} : Lived p (p.enable m) (p.enableSession m) :=
  ⟨Peripheral.log_enable, fun _ => Peripheral.isOutside_enableSession, Peripheral.depth_enable⟩

theorem PeripheralCase.lived (touched : PeripheralCase s o p) :
    ∃ added, Lived s.rig.peripheral p added := by
  cases touched with
  | kept _ _ => exact ⟨_, .nil⟩
  | armed => exact ⟨_, lived_armDma⟩
  | ran => exact ⟨_, lived_armDma.append lived_enable⟩

/-- **What a history adds to the log is about the block alone.** -/
theorem lived_after (s : Installed n) (acts : List Act) :
    ∃ added, Lived s.rig.peripheral (s.after acts).rig.peripheral added := by
  induction acts generalizing s with
  | nil => exact ⟨_, .nil⟩
  | cons a acts ih =>
    obtain ⟨first, step⟩ := (peripheral_case s a).lived
    obtain ⟨second, rest⟩ := ih (s.step a).2
    exact ⟨_, step.append rest⟩

theorem directory_start : s.start.2.rig.directory = s.rig.directory := by
  have ending := start_case s
  generalize s.start.1 = r, s.start.2 = t at ending ⊢
  cases ending <;> rfl

theorem directory_after : (s.after acts).rig.directory = s.rig.directory := by
  induction acts generalizing s with
  | nil => rfl
  | cons a acts ih =>
    rw [after_cons, ih]
    cases a with
    | start => exact directory_start
    | cancel | refuse | finish | fail => rfl

/-! ## A whole life -/

/-- What building adds to the log. -/
def openingSteps (c : Config) (divisor : Option Divisor) : List Event :=
  clockSteps divisor ++ Peripheral.configureSession c.mode c.role c.pinout

theorem routes_openingSteps : routes (openingSteps config divisor) =
    (config.pinout.pins config.mode).map (·, config.pinout.function) := by
  have clock : routes (clockSteps divisor) = [] := by cases divisor <;> rfl
  rw [openingSteps, routes_append, clock, Peripheral.routes_configureSession, List.nil_append]

theorem filter_isClock_openingSteps :
    (openingSteps config divisor).filter isClock = clockSteps divisor := by
  have clock : (clockSteps divisor).filter isClock = clockSteps divisor := by
    cases divisor <;> rfl
  rw [openingSteps, List.filter_append, clock, Peripheral.filter_isClock_configureSession,
    List.append_nil]

/-- Building adds this to the log, and gives the guard back. -/
theorem log_of_install_eq_ok (built : rig.install config link wired = (.ok engine, rig')) :
    ∃ divisor, config.divisor rig.peripheral.sourceHz = .ok divisor ∧
      rig'.peripheral.log = rig.peripheral.log ++ openingSteps config divisor ∧
      rig'.peripheral.depth = rig.peripheral.depth := by
  obtain ⟨divisor, hd, hp⟩ := peripheral_of_install_eq_ok built
  refine ⟨divisor, hd, ?_, ?_⟩
  · rw [hp, Peripheral.log_configure, log_startOwnClock, List.append_assoc]
    rfl
  · rw [hp, Peripheral.depth_configure, depth_startOwnClock]

theorem directory_of_install_eq_ok (built : rig.install config link wired = (.ok engine, rig')) :
    rig'.directory = rig.directory.add deviceName := by
  obtain ⟨divisor, -, -, rfl⟩ := install_eq_ok built
  rfl

/-- Removing an engine shuts down the block that it was built on. -/
theorem peripheral_remove (built : rig.install config link wired = (.ok engine, rig'))
    (acts : List Act) :
    ((⟨engine, rig'⟩ : Installed n).after acts).remove.peripheral =
      ((⟨engine, rig'⟩ : Installed n).after acts).rig.peripheral.shutDown config.mode config.role
        config.pinout := by
  rw [remove, config_after]
  dsimp only
  rw [(of_install_eq_ok built).1]

/-- **The log of a whole life.** It begins with the clock and ends with the pins. -/
theorem log_of_life (built : rig.install config link wired = (.ok engine, rig'))
    (acts : List Act) :
    let living := (⟨engine, rig'⟩ : Installed n).after acts
    let closing := Peripheral.shutDownSession config.mode config.role config.pinout
    ∃ divisor added, config.divisor rig.peripheral.sourceHz = .ok divisor ∧
      rig'.peripheral.since rig.peripheral = openingSteps config divisor ∧
      living.remove.peripheral.since living.rig.peripheral = closing ∧
      living.remove.peripheral.since rig.peripheral =
        openingSteps config divisor ++ (added ++ closing) ∧
      (∀ e ∈ added, e.isOutside = false) ∧
      living.remove.peripheral.depth = rig.peripheral.depth := by
  intro living closing
  obtain ⟨divisor, hd, hlog, hdepth⟩ := log_of_install_eq_ok built
  obtain ⟨added, lived⟩ := lived_after ⟨engine, rig'⟩ acts
  have hremoved : living.remove.peripheral = _ := peripheral_remove built acts
  have hgiven : living.remove.peripheral.log = living.rig.peripheral.log ++ closing := by
    rw [hremoved, Peripheral.log_shutDown]
  refine ⟨divisor, added, hd, since_of_log_eq hlog, since_of_log_eq hgiven, since_of_log_eq ?_,
    lived.inside, ?_⟩
  · rw [hgiven, lived.log, hlog, List.append_assoc, List.append_assoc]
  · rw [hremoved, Peripheral.depth_shutDown, lived.depth, hdepth]

/-- The clock is touched at the two ends of a life. -/
theorem filter_isClock_life {added : List Event} (inside : ∀ e ∈ added, e.isOutside = false) :
    (openingSteps config divisor ++ (added ++
      Peripheral.shutDownSession config.mode config.role config.pinout)).filter isClock =
        clockSteps divisor ++ if config.role = .master then [.clockStop] else [] := by
  rw [List.filter_append, List.filter_append, filter_isClock_openingSteps,
    filter_isClock_of_inside inside, Peripheral.filter_isClock_shutDownSession, List.nil_append]

/-- The maker of the clock starts it once in its life and stops it once, and another engine does
neither. -/
theorem clock_of_life {hz : UInt32} {added : List Event} (hd : config.divisor hz = .ok divisor)
    (inside : ∀ e ∈ added, e.isOutside = false) :
    let clock := (openingSteps config divisor ++ (added ++
      Peripheral.shutDownSession config.mode config.role config.pinout)).filter isClock
    (config.role = .master → ∃ d, clock = [.clockStart d, .clockStop]) ∧
      (config.role = .slave → clock = []) := by
  intro clock
  have ends : clock = _ := filter_isClock_life inside
  obtain ⟨master, d, rfl⟩ | ⟨slave, rfl⟩ := divisor_eq_ok hd
  · refine ⟨fun _ => ⟨d, ?_⟩, fun slave => ?_⟩
    · rw [ends, if_pos master]
      rfl
    · cases master.symm.trans slave
  · refine ⟨fun master => ?_, fun _ => ?_⟩
    · cases slave.symm.trans master
    · rw [ends, slave]
      rfl

/-- **What is given back by removing an engine.** Whatever happened to it since it was built, the
block is off and its other registers are as they were, and the guard is as it was before the engine
was built. The name that building listed is withdrawn, wherever it stands, and no other one; the
withdrawals are one more, unless their count is at the greatest word. The pins that building
connected become inputs in the same order. An engine that makes the clock started it once in its
life and stops it once, behind the write that switches the block off and before the first of its
pins; another one does neither. The lanes, the endpoints with their latches and streams, and the
control bus are left alone. -/
theorem remove_restores (built : rig.install config link wired = (.ok engine, rig'))
    (acts : List Act) :
    let living := (⟨engine, rig'⟩ : Installed n).after acts
    let removed := living.remove
    let taken := rig'.peripheral.since rig.peripheral
    let given := removed.peripheral.since living.rig.peripheral
    let life := removed.peripheral.since rig.peripheral
    (removed.peripheral.read .controlStatus = 0 ∧
        ∀ r, r ≠ .controlStatus → removed.peripheral.read r = living.rig.peripheral.read r) ∧
      (removed.peripheral.depth = rig.peripheral.depth ∧
        (rig.peripheral.busFree = true → removed.peripheral.busFree = true)) ∧
      (living.rig.directory.names = rig.directory.names ++ [deviceName] ∧
        deviceName ∉ removed.directory.names ∧
        removed.directory.names = living.rig.directory.names.filter (· ≠ deviceName) ∧
        removed.directory.removals =
          min (living.rig.directory.removals + 1) (UInt64.size - 1) ∧
        (living.rig.directory.removals + 1 < UInt64.size →
          removed.directory.removals = living.rig.directory.removals + 1)) ∧
      (routes taken = (config.pinout.pins config.mode).map (·, config.pinout.function) ∧
        routes given = (routes taken).map fun x => (x.1, .input)) ∧
      (config.role = .master →
        (∃ d, life.filter isClock = [.clockStart d, .clockStop]) ∧
          ∃ off pins, given = off ++ .clockStop :: pins ∧ .write .controlStatus 0 ∈ off ∧
            routes off = []) ∧
      (config.role = .slave → life.filter isClock = []) ∧
      (removed.transport = living.rig.transport ∧ removed.bus = living.rig.bus) := by
  intro living removed taken given life
  obtain ⟨divisor, added, hd, (htaken : taken = _), (hgiven : given = _), (hlife : life = _),
    inside, hdepth⟩ := log_of_life built acts
  have hregisters : removed.peripheral.registers =
      living.rig.peripheral.registers.set .controlStatus 0 :=
    (congrArg Peripheral.registers (peripheral_remove built acts)).trans
      Peripheral.registers_shutDown
  have hnames : living.rig.directory.names = rig.directory.names ++ [deviceName] := by
    rw [directory_after, directory_of_install_eq_ok built]
    rfl
  have hroutes : routes taken =
      (config.pinout.pins config.mode).map (·, config.pinout.function) := by
    rw [htaken, routes_openingSteps]
  have hclock := clock_of_life hd inside
  rw [← hlife] at hclock
  refine ⟨⟨?_, fun r hr => ?_⟩, ⟨hdepth, fun free => ?_⟩,
    ⟨hnames, Directory.not_mem_names_remove, rfl, Directory.removals_remove,
      Directory.removals_remove_of_lt⟩,
    ⟨hroutes, ?_⟩, fun master => ⟨hclock.1 master, ?_⟩, hclock.2, rfl, rfl⟩
  · rw [Peripheral.read, hregisters, RegisterFile.get_set_self]
  · rw [Peripheral.read, hregisters, RegisterFile.get_set_of_ne hr]
    rfl
  · rw [Peripheral.busFree, (hdepth : removed.peripheral.depth = _)]
    exact free
  · rw [hgiven, hroutes, Peripheral.routes_shutDownSession, List.map_map]
    rfl
  · have split := hgiven
    rw [master, Peripheral.shutDownSession_of_master] at split
    exact ⟨_, _, split, List.mem_cons_of_mem _ List.mem_cons_self, rfl⟩

/-- A duplex engine that makes the clock is refused its second lane, and is removed while the first
one runs. -/
theorem remove_restores_refused :
    let config : Config :=
      { mode := .duplex, chunk := ⟨32, by decide, by decide⟩, rate := .external 48000 }
    ∃ engine rig', (Rig.bare none).install config 0 true = (.ok engine, rig') ∧
      let living := (⟨engine, rig'⟩ : Installed 1).after [.refuse .receive, .start]
      let removed := living.remove
      living.isFaulted = true ∧ living.isActive = true ∧
        removed.peripheral.read .controlStatus = 0 ∧
        removed.directory.removals = 1 ∧
        routes (removed.peripheral.since living.rig.peripheral) =
          [(18, .input), (19, .input), (20, .input), (21, .input)] ∧
        ∃ d, (removed.peripheral.since (Rig.bare none).peripheral).filter isClock =
          [.clockStart d, .clockStop] := by
  intro config
  have built : (Rig.bare none).install config 0 true = (.ok _, _) := rfl
  obtain ⟨⟨off, -⟩, -, ⟨-, -, -, -, counted⟩, ⟨taken, given⟩, clock, -⟩ :=
    remove_restores built [.refuse .receive, .start]
  exact ⟨_, _, built, rfl, rfl, off, counted (by decide), given.trans (congrArg _ taken),
    (clock rfl).1⟩

end Installed

end SerialAudio
