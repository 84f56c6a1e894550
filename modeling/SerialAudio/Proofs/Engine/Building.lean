import SerialAudio.Engine.History
import SerialAudio.Proofs.Dma.Lanes
import SerialAudio.Proofs.Peripheral.Sessions
/-!
# Where histories begin

An engine is built on a rig that may have served others before: the registers hold what was left in
them, the records are as long as they are, and nothing of that matters. Two things have to be as
expected, and they are what `Rig.Fresh` asks for: nothing runs, and the endpoint that the engine is
going to use saw no fault.

The registers are no part of that. Building begins with switching the block off, so what an engine
finds in the control register is known without knowing the rig.

## Main results

* `Built.lane`, `Built.clear`, `Built.controlStatus` — what an engine that was just built finds
* `install_eq_ok` — what building makes
* `install_of_following` — building cannot fail if the clocks come from outside
-/

namespace SerialAudio

variable {n : Nat}

/-- A rig whose lanes are idle and whose endpoint for an engine saw no fault. Apart from that it may
have any history. -/
structure Rig.Fresh (rig : Rig n) (link : Fin n) : Prop where
  /-- Nothing runs. -/
  idle : ∀ d, (rig.transport.dma.lane d).Idle
  /-- The endpoint is usable. -/
  clear : (rig.transport.endpoint link).isFaulted = false

namespace Installed

/-- The lane of a direction. -/
def lane (s : Installed n) (d : Direction) : Lane (Fin n) := s.rig.transport.dma.lane d

/-- An engine that was just built, and that nothing happened to yet. -/
inductive Built : Installed n → Prop where
  /-- It was built on a rig that is fresh. -/
  | install {rig rig' : Rig n} {config : Config} {link : Fin n} {wired : Bool} {engine : Engine n}
      (fresh : rig.Fresh link) (built : rig.install config link wired = (.ok engine, rig')) :
      Built ⟨engine, rig'⟩

/-! ## What was built -/

variable {rig rig' : Rig n} {config : Config} {link : Fin n} {wired : Bool} {s : Installed n}

/-- Building makes the engine that was asked for, starts the clock that it makes before the block is
brought up, and lists it. -/
theorem install_eq_ok {engine : Engine n} (h : rig.install config link wired = (.ok engine, rig')) :
    ∃ divisor, config.divisor rig.peripheral.sourceHz = .ok divisor ∧
      engine = { config, link, wired } ∧
      rig' =
        { rig with
          peripheral := (rig.peripheral.startOwnClock divisor).configure config.mode config.role
            config.pinout
          directory := rig.directory.add deviceName } := by
  rw [Rig.install] at h
  split at h
  · cases h
  · rename_i divisor hd
    cases h
    exact ⟨divisor, hd, rfl, rfl⟩

theorem of_install_eq_ok {engine : Engine n}
    (h : rig.install config link wired = (.ok engine, rig')) :
    engine = { config, link, wired } ∧ rig'.transport = rig.transport ∧
      ∃ p, rig'.peripheral = Peripheral.configure p config.mode config.role config.pinout := by
  obtain ⟨divisor, -, rfl, rfl⟩ := install_eq_ok h
  exact ⟨rfl, rfl, _, rfl⟩

/-- The clock that an engine makes is started before the block is brought up. -/
theorem peripheral_of_install_eq_ok {engine : Engine n}
    (h : rig.install config link wired = (.ok engine, rig')) :
    ∃ divisor, config.divisor rig.peripheral.sourceHz = .ok divisor ∧
      rig'.peripheral = (rig.peripheral.startOwnClock divisor).configure config.mode config.role
        config.pinout := by
  obtain ⟨divisor, hd, -, rfl⟩ := install_eq_ok h
  exact ⟨divisor, hd, rfl⟩

/-- An engine makes its own clock exactly in the role that asks for it. -/
theorem divisor_eq_ok {hz : UInt32} {divisor : Option Divisor}
    (h : config.divisor hz = .ok divisor) :
    (config.role = .master ∧ ∃ d, divisor = some d) ∨ (config.role = .slave ∧ divisor = none) := by
  rw [Config.divisor] at h
  split at h
  · rename_i hr
    cases h
    exact .inr ⟨hr, rfl⟩
  · rename_i hr
    split at h
    · exact nomatch h
    · split at h
      · exact nomatch h
      · cases h
        exact .inl ⟨hr, _, rfl⟩

/-- Without a clock of its own there is nothing that building could fail at. -/
theorem install_of_following (h : config.role = .slave) :
    rig.install config link wired = (.ok { config, link, wired },
      { rig with
        peripheral := rig.peripheral.configure config.mode config.role config.pinout
        directory := rig.directory.add deviceName }) := by
  rw [Rig.install, Config.divisor, h]
  rfl

theorem Built.lane (h : s.Built) (d : Direction) : (s.lane d).Idle := by
  cases h with
  | install fresh built =>
    obtain ⟨-, ht, -⟩ := of_install_eq_ok built
    rw [Installed.lane, ht]
    exact fresh.idle d

theorem Built.clear (h : s.Built) : s.isFaulted = false := by
  cases h with
  | install fresh built =>
    obtain ⟨rfl, ht, -⟩ := of_install_eq_ok built
    rw [isFaulted, endpoint, ht]
    exact fresh.clear

theorem Built.codec (h : s.Built) : s.engine.codec = none := by
  cases h with
  | install fresh built =>
    obtain ⟨rfl, -, -⟩ := of_install_eq_ok built
    rfl

/-- The block is on and does nothing, whatever it did before. -/
theorem Built.controlStatus (h : s.Built) :
    s.rig.peripheral.read .controlStatus = Peripheral.restingControl := by
  cases h with
  | install fresh built =>
    obtain ⟨-, -, p, hp⟩ := of_install_eq_ok built
    rw [hp]
    exact Peripheral.read_controlStatus_configure

end Installed

/-! ## An engine alone on its rig -/

/-- A rig with one endpoint, to play silence, on which nothing happened. -/
def Rig.bare (bus : Option ControlBus) : Rig 1 where
  peripheral := {}
  transport := { dma := { slots := 32 }, endpoints := #v[{ stream := .pattern { pattern := 0 } }] }
  bus := bus
  directory := {}

theorem Rig.fresh_bare {bus : Option ControlBus} : (Rig.bare bus).Fresh 0 :=
  ⟨fun d => by cases d <;> exact ⟨rfl, rfl, rfl⟩, rfl⟩

namespace Installed

/-- An engine on such a rig, with the clocks from outside. -/
def alone (mode : Mode) (codecAddress : Codec.Address) (bus : Option ControlBus) : Installed 1 where
  engine :=
    { config :=
        { mode, role := .slave, chunk := ⟨32, by decide, by decide⟩, rate := .external 48000,
          codecAddress }
      link := 0
      wired := true }
  rig :=
    { Rig.bare bus with
      peripheral := (Rig.bare bus).peripheral.configure mode .slave .standard
      directory := (Rig.bare bus).directory.add deviceName }

theorem built_alone {mode codecAddress bus} : (alone mode codecAddress bus).Built :=
  .install Rig.fresh_bare (install_of_following rfl)

end Installed

end SerialAudio
