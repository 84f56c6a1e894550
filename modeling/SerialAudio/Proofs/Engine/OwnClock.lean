import SerialAudio.Proofs.Clock.Rounding
import SerialAudio.Proofs.Engine.Building
/-!
# The clock that a master makes

An engine in the role of master starts the clock generator when it is built, once, and before it
touches the block. The divisor is the one nearest to the rate, so it is as good as the source
allows, and a source that is slower than the rate allows for no whole division at all. Building does
not ask for one: a source is refused for standing still or for not being made of whole frames, never
for being slow.

So the fraction that the generator is given always fits, and the whole divisions are at least one
exactly if the source is fast enough. That is the best that can be said, and `clockStart_slow` is a
source for which the generator is started with a divisor of zero.

## Main results

* `exists_install_eq_ok_iff` — when a master can be built
* `clockStart_install` — what its clock generator is started with
* `clockStart_slow` — a source that is too slow, and is taken all the same
-/

namespace SerialAudio

open Clock

namespace Installed

variable {n : Nat} {rig : Rig n} {config : Config} {link : Fin n} {wired : Bool} {hz : UInt32}
  {d : Divisor} {divisor : Option Divisor}

/-! ## When a master can be built -/

/-- The divisor of a master, from the rate and the source. -/
theorem divisor_eq_ok_iff_of_master (master : config.role = .master) :
    config.divisor hz = .ok divisor ↔
      (8000 ≤ config.rate.hz.toNat ∧ config.rate.hz.toNat ≤ 192000) ∧
        ∃ d, Divisor.nearest hz config.rate = .ok d ∧ divisor = some d := by
  rw [Config.divisor, master]
  dsimp only
  cases hc : SampleRate.checked config.rate.hz with
  | error e =>
    constructor
    · intro h
      cases h
    · rintro ⟨range, -⟩
      rw [SampleRate.checked_eq_ok_iff.mpr ⟨range, rfl⟩] at hc
      cases hc
  | ok rate =>
    -- a rate that was taken on trust is checked like any other
    obtain ⟨range, rfl⟩ := SampleRate.checked_eq_ok_iff.mp hc
    dsimp only
    cases Divisor.nearest hz config.rate with
    | error e =>
      constructor
      · intro h
        cases h
      · rintro ⟨-, d, h, -⟩
        cases h
    | ok d =>
      constructor
      · intro h
        cases h
        exact ⟨range, d, rfl, rfl⟩
      · rintro ⟨-, d', h, rfl⟩
        cases h
        rfl

/-- Building fails at the divisor or not at all. -/
theorem exists_install_eq_ok_iff_divisor :
    (∃ engine, (rig.install config link wired).1 = .ok engine) ↔
      ∃ divisor, config.divisor rig.peripheral.sourceHz = .ok divisor := by
  rw [Rig.install]
  cases config.divisor rig.peripheral.sourceHz with
  | error e =>
    constructor
    · rintro ⟨engine, h⟩
      cases h
    · rintro ⟨divisor, h⟩
      cases h
  | ok divisor => exact ⟨fun _ => ⟨divisor, rfl⟩, fun _ => ⟨_, rfl⟩⟩

/-- **When a master can be built.** How fast the source is has no part in it. -/
theorem exists_install_eq_ok_iff (master : config.role = .master) :
    (∃ engine, (rig.install config link wired).1 = .ok engine) ↔
      (8000 ≤ config.rate.hz.toNat ∧ config.rate.hz.toNat ≤ 192000) ∧
        rig.peripheral.sourceHz ≠ 0 ∧ rig.peripheral.sourceHz.toNat % 64 = 0 := by
  rw [exists_install_eq_ok_iff_divisor]
  constructor
  · rintro ⟨divisor, h⟩
    obtain ⟨range, d, hd, -⟩ := (divisor_eq_ok_iff_of_master master).mp h
    obtain ⟨⟨running, aligned, -⟩, -⟩ := Divisor.nearest_eq_ok_iff.mp hd
    exact ⟨range, running, aligned⟩
  · rintro ⟨range, running, aligned⟩
    have hrate : config.rate.hz ≠ 0 := by
      intro h
      rw [h] at range
      exact absurd range.1 (by decide)
    have hd := Divisor.nearest_eq_ok_iff.mpr ⟨⟨running, aligned, hrate⟩, rfl⟩
    exact ⟨_, (divisor_eq_ok_iff_of_master master).mpr ⟨range, _, hd, rfl⟩⟩

/-! ## What the generator is started with -/

theorem log_install (h : config.divisor rig.peripheral.sourceHz = .ok (some d)) :
    (rig.install config link wired).2.peripheral.log = rig.peripheral.log ++
      .clockStart d :: Peripheral.configureSession config.mode config.role config.pinout := by
  rw [Rig.install, h]
  dsimp only
  rw [Peripheral.log_configure, Peripheral.startOwnClock, Peripheral.startClock,
    Peripheral.log_record, List.append_assoc, List.singleton_append]

/-- Bringing the block up leaves the clock alone. -/
theorem clockStart_not_mem_configureSession {m : Mode} {role : Role} {o : Pinout} :
    Event.clockStart d ∉ Peripheral.configureSession m role o := by
  simp [Peripheral.configureSession, Peripheral.formatSteps, Peripheral.wakeSteps]

/-- **What the clock generator of a master is started with.** A master can be built whenever the
rate is in range and the source runs and is made of whole frames. Then the generator is started
once, before anything else is done, with a fraction that fits; and there is a whole division exactly
if the source has as many frames as the rate, less half a step. -/
theorem clockStart_install (rig : Rig n) (config : Config) (link : Fin n) (wired : Bool)
    (master : config.role = .master) :
    let fs := config.rate.hz.toNat
    let source := rig.peripheral.sourceHz
    ((∃ engine, (rig.install config link wired).1 = .ok engine) ↔
        (8000 ≤ fs ∧ fs ≤ 192000) ∧ source ≠ 0 ∧ source.toNat % 64 = 0) ∧
      ∀ engine, (rig.install config link wired).1 = .ok engine →
        ∃ d rest, (rig.install config link wired).2.peripheral.log =
            rig.peripheral.log ++ Event.clockStart d :: rest ∧
          (∀ other, Event.clockStart other ∉ rest) ∧ d.fraction.toNat ≤ 4095 ∧
          (1 ≤ d.integer.toNat ↔ 8192 * (fs - source.toNat / 64) ≤ fs) := by
  intro fs source
  refine ⟨exists_install_eq_ok_iff master, fun engine built => ?_⟩
  obtain ⟨divisor, hd⟩ := exists_install_eq_ok_iff_divisor.mp ⟨engine, built⟩
  obtain ⟨⟨slow, -⟩, d, nearest, rfl⟩ := (divisor_eq_ok_iff_of_master master).mp hd
  refine ⟨d, _, log_install hd, fun _ => clockStart_not_mem_configureSession, ?_⟩
  obtain ⟨-, rfl⟩ := Divisor.nearest_eq_ok_iff.mp nearest
  have pos : 0 < fs := Nat.lt_of_lt_of_le (by decide) slow
  exact ⟨Divisor.fraction_ofRatio_le,
    Divisor.one_le_integer_ofRatio_iff pos (Divisor.frames_lt_size source)⟩

/-- A rig on which nothing happened, with a source of this rate. -/
def sourced (hz : UInt32) : Rig 1 := { Rig.bare none with peripheral := { sourceHz := hz } }

/-- A playback engine that makes the clock for 48000 frames a second. -/
def leading : Config :=
  { mode := .playback, chunk := ⟨64, by decide, by decide⟩, rate := .external 48000 }

/-- A source that is five frames short of the rate still has a whole division, by rounding. -/
theorem clockStart_install_rounded :
    leading.role = .master ∧
      ∃ engine d rest, ((sourced 3071680).install leading 0 false).1 = .ok engine ∧
        ((sourced 3071680).install leading 0 false).2.peripheral.log = .clockStart d :: rest ∧
        d.fraction.toNat ≤ 4095 ∧ 1 ≤ d.integer.toNat := by
  obtain ⟨taken, started⟩ := clockStart_install (sourced 3071680) leading 0 false rfl
  obtain ⟨engine, built⟩ := taken.mpr (by decide)
  obtain ⟨d, rest, log, -, fraction, whole⟩ := started engine built
  exact ⟨rfl, engine, d, rest, built, log, fraction, whole.mpr (by decide)⟩

/-- **A source that is too slow is taken, and the generator divides by zero.** It has one frame a
second. -/
theorem clockStart_slow :
    leading.role = .master ∧
      (∃ engine, ((sourced 64).install leading 0 false).1 = .ok engine) ∧
      .clockStart ⟨0, 0⟩ ∈ ((sourced 64).install leading 0 false).2.peripheral.log :=
  ⟨rfl, ⟨_, rfl⟩, by decide⟩

end Installed

end SerialAudio
