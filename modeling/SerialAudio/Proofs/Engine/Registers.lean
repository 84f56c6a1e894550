import SerialAudio.Proofs.Engine.Requests
import SerialAudio.Proofs.Register.Levels
/-!
# What the registers hold

Only a start writes to the block, and what it writes is made of what it reads: every word but those
of bringing the block up goes back with some bits changed. Still the registers have a closed form,
because changing them again changes nothing. They are known from three things: what was in the
request levels when the engine was built, whether some start came as far as its lanes, and whether
some start went through.

`PeripheralCase` is what an act can do to the block, and it is all that a statement about the block
along a history has to look at.

## Main results

* `peripheral_case` — what an act can do to the block
* `PeripheralCase.registers_eq` — the closed form is kept
* `registers_after` — the five registers along every history of an engine that was built
-/

namespace SerialAudio

open Register

/-- The registers of an engine whose starts let the block ask for transfers, or run, on a block
whose request levels were `found`. -/
def RegisterFile.settled (c : Config) (found : UInt32) (armed ran : Bool) : RegisterFile where
  controlStatus := Installed.controlWord c.mode armed ran
  mode := FrameFormat.ofRole c.role
  txConfig := SlotLayout.map
  rxConfig := SlotLayout.map
  dmaRequest :=
    if armed then Peripheral.loweredLevels found (Peripheral.shortDirections c.mode c.chunk)
    else found

namespace Peripheral

variable {p : Peripheral} {c : Config} {found : UInt32} {armed ran : Bool}

theorem registers_configure_settled : (p.configure c.mode c.role c.pinout).registers =
    .settled c p.registers.dmaRequest false false := by
  have hw : restingControl = Installed.controlWord c.mode false false := by
    cases c.mode <;> decide
  rw [registers_configure, hw]
  rfl

theorem registers_armDma_settled (h : p.registers = .settled c found armed ran) :
    (p.armDma c.mode c.chunk).registers = .settled c found true ran := by
  have hw : p.read .controlStatus ||| ControlStatus.dmaEnable =
      Installed.controlWord c.mode true ran := by
    rw [read, h]
    exact Installed.controlWord_arm
  -- it does not matter whether the levels were lowered before
  have hl : loweredLevels (p.read .dmaRequest) (shortDirections c.mode c.chunk) =
      loweredLevels found (shortDirections c.mode c.chunk) := by
    rw [read, h]
    cases armed with
    | false => rfl
    | true => exact RequestLevel.loweredLevels_loweredLevels
  rw [registers_armDma, hw, hl, h]
  rfl

theorem registers_enable_settled (h : p.registers = .settled c found armed ran) :
    (p.enable c.mode).registers = .settled c found armed true := by
  have hw : p.read .controlStatus ||| ControlStatus.enableBits c.mode =
      Installed.controlWord c.mode armed true := by
    rw [read, h]
    exact Installed.controlWord_enable
  rw [registers_enable, hw, h]
  rfl

end Peripheral

namespace Installed

variable {n : Nat} {rig rig' : Rig n} {config : Config} {link : Fin n} {wired : Bool}
  {engine : Engine n} {s : Installed n} {acts : List Act} {o : Outcome} {p : Peripheral}
  {found : UInt32} {armed ran : Bool}

/-! ## What an act can do to the block -/

/-- What an act makes of the block, by what comes of it. -/
inductive PeripheralCase (s : Installed n) : Outcome → Peripheral → Prop where
  /-- Anything that does not come as far as the lanes leaves the block alone. -/
  | kept {o : Outcome} (armed : o.armed = false) (ran : o.ran = false) :
      PeripheralCase s o s.rig.peripheral
  /-- A start that is refused a lane has armed the block. -/
  | armed {d : Direction} :
      PeripheralCase s (.started (.error (.dma d)))
        (s.rig.peripheral.armDma s.engine.config.mode s.engine.config.chunk)
  /-- A start that goes through has also let it run. -/
  | ran :
      PeripheralCase s (.started (.ok ()))
        ((s.rig.peripheral.armDma s.engine.config.mode s.engine.config.chunk).enable
          s.engine.config.mode)

/-- **There is nothing else that an act can do to the block.** -/
theorem peripheral_case (s : Installed n) (a : Act) :
    PeripheralCase s (s.step a).1 (s.step a).2.rig.peripheral := by
  cases a with
  | start =>
    have ending := start_case s
    show PeripheralCase s (.started s.start.1) s.start.2.rig.peripheral
    generalize s.start.1 = r, s.start.2 = t at ending ⊢
    cases ending with
    | faulted _ => exact .kept rfl rfl
    | codec _ _ => exact .kept rfl rfl
    | lane _ _ _ => exact .armed
    | ok _ _ _ => exact .ran
  | cancel => exact .kept rfl rfl
  | refuse d => exact .kept rfl rfl
  | finish d buffer => exact .kept rfl rfl
  | fail d => exact .kept rfl rfl

/-! ## The closed form -/

theorem PeripheralCase.registers_eq (touched : PeripheralCase s o p)
    (h : s.rig.peripheral.registers = .settled s.engine.config found armed ran) :
    p.registers = .settled s.engine.config found (armed || o.armed) (ran || o.ran) := by
  cases touched with
  | kept notArmed notRan =>
    rw [notArmed, notRan, Bool.or_false, Bool.or_false]
    exact h
  | armed =>
    show _ = RegisterFile.settled _ _ (armed || true) (ran || false)
    rw [Bool.or_true, Bool.or_false]
    exact Peripheral.registers_armDma_settled h
  | ran =>
    show _ = RegisterFile.settled _ _ (armed || true) (ran || true)
    rw [Bool.or_true, Bool.or_true]
    exact Peripheral.registers_enable_settled (Peripheral.registers_armDma_settled h)

theorem registers_after_of_eq
    (h : s.rig.peripheral.registers = .settled s.engine.config found armed ran) :
    (s.after acts).rig.peripheral.registers =
      .settled s.engine.config found (armed || (s.outcomes acts).any Outcome.armed)
        (ran || (s.outcomes acts).any Outcome.ran) := by
  induction acts generalizing s armed ran with
  | nil =>
    rw [after_nil, outcomes_nil, List.any_nil, List.any_nil, Bool.or_false, Bool.or_false]
    exact h
  | cons a acts ih =>
    have step := (peripheral_case s a).registers_eq h
    rw [← config_step (s := s) (a := a)] at step
    rw [after_cons, ih step, config_step, outcomes_cons, List.any_cons, List.any_cons,
      Bool.or_assoc, Bool.or_assoc]

theorem registers_of_install_eq_ok (h : rig.install config link wired = (.ok engine, rig')) :
    rig'.peripheral.registers =
      .settled config rig.peripheral.registers.dmaRequest false false := by
  obtain ⟨divisor, -, hp⟩ := peripheral_of_install_eq_ok h
  have hr : (rig.peripheral.startOwnClock divisor).registers = rig.peripheral.registers := by
    cases divisor <;> rfl
  rw [hp, Peripheral.registers_configure_settled, hr]

theorem level_settled {d : Direction} :
    RequestLevel.level d (RegisterFile.settled config found armed ran).dmaRequest =
      if armed && (decide (config.chunk.slots < 64) && config.mode.uses d) then 0x18
      else RequestLevel.level d found := by
  cases armed with
  | false => rfl
  | true =>
    rw [Bool.true_and]
    refine RequestLevel.level_loweredLevels.trans ?_
    split
    · rw [if_pos (Peripheral.mem_shortDirections.mp ‹_›)]
      rfl
    · rw [if_neg (mt Peripheral.mem_shortDirections.mpr ‹_›)]

theorem others_settled :
    (RegisterFile.settled config found armed ran).dmaRequest &&& RequestLevel.others =
      found &&& RequestLevel.others := by
  cases armed with
  | false => rfl
  | true => exact RequestLevel.loweredLevels_and_others

/-- **The five registers of an engine, whatever happened to it.** The control register holds what
bringing the block up left in it, the permission to ask for transfers once a start came as far as
the lanes, and the bits of the mode once a start went through. The request levels are those that
were found, but for the level of each direction in use once a start came as far as the lanes with a
short chunk. The other three registers are as bringing the block up left them. -/
theorem registers_after (built : rig.install config link wired = (.ok engine, rig'))
    (acts : List Act) :
    let s : Installed n := ⟨engine, rig'⟩
    let found := rig.peripheral.registers
    let left := (s.after acts).rig.peripheral.registers
    let armed := (s.outcomes acts).any Outcome.armed
    let ran := (s.outcomes acts).any Outcome.ran
    left.controlStatus =
        ControlStatus.clearPlayback ||| ControlStatus.clearCapture ||| ControlStatus.standby
            ||| ControlStatus.enable
          ||| (if armed then ControlStatus.dmaEnable else 0)
          ||| (if ran then ControlStatus.enableBits config.mode else 0) ∧
      left.mode = FrameFormat.ofRole config.role ∧
      left.txConfig = SlotLayout.map ∧ left.rxConfig = SlotLayout.map ∧
      (∀ d, RequestLevel.level d left.dmaRequest =
        if armed && (decide (config.chunk.slots < 64) && config.mode.uses d) then 0x18
        else RequestLevel.level d found.dmaRequest) ∧
      left.dmaRequest &&& RequestLevel.others = found.dmaRequest &&& RequestLevel.others := by
  intro s found left armed ran
  have hconfig : s.engine.config = config := congrArg Engine.config (of_install_eq_ok built).1
  have hs : s.rig.peripheral.registers = .settled s.engine.config found.dmaRequest false false := by
    rw [hconfig]
    exact registers_of_install_eq_ok built
  have hleft : (s.after acts).rig.peripheral.registers = _ := registers_after_of_eq hs
  rw [Bool.false_or, Bool.false_or, hconfig] at hleft
  change left = .settled config found.dmaRequest armed ran at hleft
  rw [hleft]
  exact ⟨rfl, rfl, rfl, rfl, fun _ => level_settled, others_settled⟩

/-- A start that is refused its second lane arms the block and lowers both levels, and that is how
far it comes. -/
theorem registers_after_refused :
    let s : Installed 1 := alone .duplex .probe none
    let left := (s.after [.refuse .receive, .start]).rig.peripheral.registers
    (Rig.bare none).install s.engine.config 0 true = (.ok s.engine, s.rig) ∧
      left.controlStatus = 0x02000219 ∧ left.mode = 0x00F0FC20 ∧
      ∀ d, RequestLevel.level d left.dmaRequest = 0x18 := by
  have built : (Rig.bare none).install (alone .duplex .probe none).engine.config 0 true =
      (.ok (alone .duplex .probe none).engine, (alone .duplex .probe none).rig) :=
    install_of_following rfl
  obtain ⟨control, mode, -, -, levels, -⟩ := registers_after built [.refuse .receive, .start]
  exact ⟨built, control.trans (by decide), mode.trans (by decide), fun d => (levels d).trans (by
    cases d <;> decide)⟩

end Installed

end SerialAudio
