import SerialAudio.Peripheral.Sequence
/-!
# The sessions of a start

A start opens the bus guard twice: once to let the block ask for transfers, and once more to let it
run. What each of the two adds to the log is written down here as a list of events, from the words
that the registers held before. Between the guard and its release there is nothing but writes, and
all of them go to the request levels and to the control register.

The two sessions at the ends of the block's life are written down the same way. They need no word
from before: bringing the block up begins with clearing the control register, and shutting it down
consists of that.

## Main results

* `log_armDma`, `log_enable`, `log_configure`, `log_shutDown` — the log grows by exactly one session
* `read_controlStatus_armDma`, `read_controlStatus_enable` — bits are added and none is taken away
* `registers_configure` — what is in the registers of a block that was brought up
* `depth_armDma`, `depth_enable`, `depth_configure`, `depth_shutDown` — guards are given back
* `configure_forgets` — what is done to a block that is brought up, and what is left of it
-/

namespace SerialAudio

open Register

namespace Peripheral

variable {p : Peripheral} {m : Mode} {c : Chunk} {ds : List Direction} {role : Role} {o : Pinout}

@[simp] theorem read_write_self {r : Register} {v : UInt32} : (p.write r v).read r = v :=
  RegisterFile.get_set_self

/-! ## Lowering the request levels -/

/-- Lower the request levels of directions in turn. -/
def lowerLevels (p : Peripheral) (ds : List Direction) : Peripheral :=
  ds.foldl (fun p d => p.modify .dmaRequest (RequestLevel.lower d)) p

/-- The writes that this takes, from the levels that are found. -/
def levelWrites (levels : UInt32) : List Direction → List Event
  | [] => []
  | d :: ds =>
    .write .dmaRequest (RequestLevel.lower d levels) :: levelWrites (RequestLevel.lower d levels) ds

/-- The levels after it. -/
def loweredLevels (levels : UInt32) (ds : List Direction) : UInt32 :=
  ds.foldl (fun levels d => RequestLevel.lower d levels) levels

theorem mem_levelWrites {levels : UInt32} {e : Event} (h : e ∈ levelWrites levels ds) :
    ∃ v, e = .write .dmaRequest v := by
  induction ds generalizing levels with
  | nil => exact absurd h List.not_mem_nil
  | cons d ds ih =>
    rcases List.mem_cons.mp h with rfl | h
    · exact ⟨_, rfl⟩
    · exact ih h

theorem lowerLevel_lowerLevel :
    (p.lowerLevel m .transmit).lowerLevel m .receive = p.lowerLevels m.directions := by
  cases m <;> rfl

theorem log_lowerLevels :
    (p.lowerLevels ds).log = p.log ++ levelWrites (p.read .dmaRequest) ds := by
  induction ds generalizing p with
  | nil => exact (List.append_nil _).symm
  | cons d ds ih =>
    rw [lowerLevels, List.foldl_cons, ← lowerLevels, ih, modify, log_write, List.append_assoc,
      List.singleton_append, read_write_self, levelWrites]

theorem registers_lowerLevels :
    (p.lowerLevels ds).registers =
      p.registers.set .dmaRequest (loweredLevels (p.read .dmaRequest) ds) := by
  induction ds generalizing p with
  | nil => exact RegisterFile.set_get_self.symm
  | cons d ds ih =>
    rw [lowerLevels, List.foldl_cons, ← lowerLevels, ih, modify, registers_write,
      RegisterFile.set_set_self, read_write_self, loweredLevels, loweredLevels, List.foldl_cons]

/-! ## Arming -/

/-- The directions whose levels are lowered for a chunk. -/
def shortDirections (m : Mode) (c : Chunk) : List Direction :=
  if c.slots < RequestLevel.defaultChunk then m.directions else []

theorem mem_shortDirections {d : Direction} :
    d ∈ shortDirections m c ↔ (decide (c.slots < 64) && m.uses d) = true := by
  have hc : RequestLevel.defaultChunk = 64 := rfl
  rw [shortDirections, hc, Bool.and_eq_true, decide_eq_true_iff]
  split
  · rename_i h
    rw [Mode.mem_directions]
    exact ⟨fun hd => ⟨h, hd⟩, And.right⟩
  · rename_i h
    exact ⟨fun hd => absurd hd List.not_mem_nil, fun hd => absurd hd.1 h⟩

/-- What arming adds to the log. -/
def armSession (p : Peripheral) (m : Mode) (c : Chunk) : List Event :=
  .busEnter :: (levelWrites (p.read .dmaRequest) (shortDirections m c) ++
    [.write .controlStatus (p.read .controlStatus ||| ControlStatus.dmaEnable), .busExit])

theorem armDma_eq :
    p.armDma m c =
      p.withBus fun p => (p.lowerLevels (shortDirections m c)).raise ControlStatus.dmaEnable := by
  rw [armDma, shortDirections]
  split
  · rw [withBus, withBus, lowerLevel_lowerLevel]
  · rfl

theorem registers_armDma :
    (p.armDma m c).registers =
      (p.registers.set .dmaRequest
          (loweredLevels (p.read .dmaRequest) (shortDirections m c))).set .controlStatus
        (p.read .controlStatus ||| ControlStatus.dmaEnable) := by
  rw [armDma_eq, withBus, registers_exit, raise, modify, registers_write, read,
    registers_lowerLevels, RegisterFile.get_set_of_ne (by decide)]
  rfl

/-- **Arming is one session.** -/
theorem log_armDma : (p.armDma m c).log = p.log ++ p.armSession m c := by
  have hc : (p.enter.lowerLevels (shortDirections m c)).read .controlStatus =
      p.read .controlStatus := by
    rw [read, registers_lowerLevels, RegisterFile.get_set_of_ne (by decide)]
    rfl
  rw [armDma_eq, withBus, log_exit, raise, modify, log_write, log_lowerLevels, hc, armSession]
  simp only [log_enter, List.append_assoc, List.singleton_append]
  rfl

theorem read_controlStatus_armDma :
    (p.armDma m c).read .controlStatus = p.read .controlStatus ||| ControlStatus.dmaEnable := by
  rw [read, registers_armDma, RegisterFile.get_set_self]

/-! ## Enabling -/

/-- What letting the block run adds to the log. -/
def enableSession (p : Peripheral) (m : Mode) : List Event :=
  [.busEnter, .write .controlStatus (p.read .controlStatus ||| ControlStatus.enableBits m),
    .busExit]

theorem registers_enable :
    (p.enable m).registers = p.registers.set .controlStatus
      (p.read .controlStatus ||| ControlStatus.enableBits m) := rfl

/-- **Enabling is one session.** -/
theorem log_enable : (p.enable m).log = p.log ++ p.enableSession m := by
  rw [enable, withBus, log_exit, raise, modify, log_write, log_enter, List.append_assoc,
    List.append_assoc]
  rfl

theorem read_controlStatus_enable :
    (p.enable m).read .controlStatus =
      p.read .controlStatus ||| ControlStatus.enableBits m := by
  rw [read, registers_enable, RegisterFile.get_set_self]

/-! ## Configuring -/

/-- The control register of a block that was brought up, whatever it was before. -/
def restingControl : UInt32 :=
  (ControlStatus.clearPlayback ||| ControlStatus.clearCapture) ||| ControlStatus.standby |||
    ControlStatus.enable

theorem read_controlStatus_configure :
    (p.configure m role o).read .controlStatus = restingControl := by
  rw [configure, withBus, read, registers_exit]
  simp only [raise, modify, read, connectPins, delayUs, registers_record, registers_write,
    registers_routeAll, RegisterFile.get_set]
  simp [restingControl]

/-- Switching the block off, clearing it and formatting its frames. -/
def formatSteps (role : Role) : List Event :=
  [.write .controlStatus 0,
    .delayUs settleUs,
    .write .controlStatus (ControlStatus.clearPlayback ||| ControlStatus.clearCapture),
    .delayUs settleUs,
    .write .txConfig SlotLayout.map,
    .write .rxConfig SlotLayout.map,
    .write .mode (FrameFormat.ofRole role)]

/-- Waking the block and switching it on. -/
def wakeSteps : List Event :=
  [.write .controlStatus
      (ControlStatus.clearPlayback ||| ControlStatus.clearCapture ||| ControlStatus.standby),
    .delayUs standbySettleUs,
    .write .controlStatus restingControl,
    .delayUs settleUs]

/-- What bringing the block up adds to the log. -/
def configureSession (m : Mode) (role : Role) (o : Pinout) : List Event :=
  .busEnter :: (formatSteps role ++ (o.pins m).map (Event.pin · o.function) ++ wakeSteps ++
    [.busExit])

/-- **Bringing the block up is one session, whatever the block did before.** -/
theorem log_configure : (p.configure m role o).log = p.log ++ configureSession m role o := by
  simp only [configure, withBus, raise, modify, read, connectPins, delayUs, log_exit, log_record,
    log_write, log_routeAll, log_enter, registers_record, registers_write, registers_routeAll,
    RegisterFile.get_set, List.append_assoc]
  simp [configureSession, formatSteps, wakeSteps, restingControl]

/-- Nothing but the request levels is left of the registers as they were found. -/
theorem registers_configure : (p.configure m role o).registers =
    { controlStatus := restingControl
      mode := FrameFormat.ofRole role
      txConfig := SlotLayout.map
      rxConfig := SlotLayout.map
      dmaRequest := p.registers.dmaRequest } := by
  simp only [configure, withBus, raise, modify, read, connectPins, delayUs, registers_exit,
    registers_record, registers_write, registers_routeAll, registers_enter, RegisterFile.get_set]
  simp [RegisterFile.set, restingControl]

/-! ## Shutting down -/

/-- What shutting the block down adds to the log. -/
def shutDownSession (m : Mode) (role : Role) (o : Pinout) : List Event :=
  [.busEnter, .write .controlStatus 0, .delayUs standbySettleUs, .busExit] ++
    (if role = .master then [.clockStop] else []) ++ (o.pins m).map (Event.pin · .input)

/-- **Shutting the block down is one session, and then the clock and the pins.** -/
theorem log_shutDown : (p.shutDown m role o).log = p.log ++ shutDownSession m role o := by
  cases role <;>
    simp [shutDown, shutDownSession, withBus, stopOwnClock, stopClock, disconnectPins, delayUs]

/-! ## Guards -/

theorem depth_lowerLevels : (p.lowerLevels ds).depth = p.depth := by
  induction ds generalizing p with
  | nil => rfl
  | cons d ds ih => exact ih (p := p.modify .dmaRequest (RequestLevel.lower d))

theorem depth_armDma : (p.armDma m c).depth = p.depth := by
  rw [armDma_eq, withBus, depth_exit, raise, modify, depth_write, depth_lowerLevels, depth_enter,
    Nat.add_sub_cancel]

theorem depth_enable : (p.enable m).depth = p.depth := by
  rw [enable, withBus, depth_exit, raise, modify, depth_write, depth_enter, Nat.add_sub_cancel]

theorem depth_configure : (p.configure m role o).depth = p.depth := by
  simp [configure, withBus, raise, modify, connectPins, delayUs]

theorem depth_shutDown : (p.shutDown m role o).depth = p.depth := by
  cases role <;> simp [shutDown, withBus, stopOwnClock, stopClock, disconnectPins, delayUs]

/-! ## Configuring whatever is found -/

/-- **Bringing the block up does not depend on the state in which it is found.** Every word that is
read back was written by the same session before, so two peripherals that have nothing in common,
one of which may run, get the same events in the same order: the block is switched off, cleared and
formatted, the pins of the mode are connected, and the block is woken and switched on, each with the
time it needs. Both end with the same words in all registers but the request levels; those, and the
guards that are held, are left as they were found. -/
theorem configure_forgets (p q : Peripheral) (m : Mode) (role : Role) (o : Pinout) :
    let cleared := ControlStatus.clearPlayback ||| ControlStatus.clearCapture
    let awake := cleared ||| ControlStatus.standby
    let signals := [(o.clock, true), (o.frameSync, true), (o.dataIn, m.receives),
      (o.dataOut, m.transmits)]
    let steps : List Event :=
      [.busEnter,
        .write .controlStatus 0, .delayUs 10,
        .write .controlStatus cleared, .delayUs 10,
        .write .txConfig SlotLayout.map, .write .rxConfig SlotLayout.map,
        .write .mode (FrameFormat.ofRole role)] ++
      (signals.filter (·.2)).map (fun signal => .pin signal.1 o.function) ++
      [.write .controlStatus awake, .delayUs 50,
        .write .controlStatus (awake ||| ControlStatus.enable), .delayUs 10,
        .busExit]
    let p' := p.configure m role o
    let q' := q.configure m role o
    (p'.log = p.log ++ steps ∧ q'.log = q.log ++ steps) ∧
      (∀ r, r ≠ .dmaRequest → p'.read r = q'.read r) ∧
      (p'.read .dmaRequest = p.read .dmaRequest ∧ q'.read .dmaRequest = q.read .dmaRequest) ∧
      p'.depth = p.depth ∧ q'.depth = q.depth := by
  intro cleared awake signals steps p' q'
  have session : configureSession m role o = steps := by cases m <;> rfl
  have log : ∀ found : Peripheral, (found.configure m role o).log = found.log ++ steps := by
    intro found
    rw [log_configure, session]
  have forgotten : ∀ r, r ≠ .dmaRequest → p'.read r = q'.read r := by
    intro r hr
    rw [read, read, registers_configure, registers_configure]
    cases r with
    | dmaRequest => exact absurd rfl hr
    | controlStatus | mode | rxConfig | txConfig => rfl
  have kept : ∀ found : Peripheral,
      (found.configure m role o).read .dmaRequest = found.read .dmaRequest := by
    intro found
    rw [read, registers_configure]
    rfl
  exact ⟨⟨log p, log q⟩, forgotten, ⟨kept p, kept q⟩, depth_configure, depth_configure⟩

end Peripheral

end SerialAudio
