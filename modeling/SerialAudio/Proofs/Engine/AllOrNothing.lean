import SerialAudio.Proofs.Engine.OwnClock
/-!
# Building is all or nothing

Three things can keep an engine from being built, and only one that makes the clock. All of them are
asked about before anything is done, so whoever is refused finds the rig as it was, down to its
records.

## Which of them is blamed

More than one may hold, and then the order of the questions shows: the rate comes before the source,
and a source that stands still is not also blamed for its frames. `Obstacle` has the order in its
conditions, so that at most one of its constructors applies.

A rate of zero has no constructor there. The divisor would refuse it, but whoever makes the clock
has had its range checked by then, and that goes for a rate that was taken on trust as well.

## Main results

* `divisor_eq_error_iff` — the obstacles are the failures
* `install_of_eq_error` — a failure leaves the rig as it was
* `install_refusals` — both for building, with each failure by name
-/

namespace SerialAudio

open Clock

/-- What keeps an engine that makes the clock from being built, and what is blamed for it. -/
inductive Obstacle (rate : SampleRate) (source : UInt32) : BuildError → Prop where
  /-- The rate is out of range. -/
  | rate (outside : ¬(8000 ≤ rate.hz.toNat ∧ rate.hz.toNat ≤ 192000)) :
      Obstacle rate source (.rate ⟨rate.hz, 8000, 192000⟩)
  /-- The source stands still. -/
  | still (inside : 8000 ≤ rate.hz.toNat ∧ rate.hz.toNat ≤ 192000) (zero : source = 0) :
      Obstacle rate source (.clock .zeroSource)
  /-- The source has no whole number of frames per second. -/
  | uneven (inside : 8000 ≤ rate.hz.toNat ∧ rate.hz.toNat ≤ 192000) (runs : source ≠ 0)
      (rest : source.toNat % 64 ≠ 0) : Obstacle rate source (.clock (.sourceNotFrameAligned source))

/-- Let go of what came of building: an engine is removed, and an error is only forgotten. -/
def Rig.letGo {n : Nat} (rig : Rig n) : Except BuildError (Engine n) → Rig n
  | .ok engine => (⟨engine, rig⟩ : Installed n).remove
  | .error _ => rig

namespace Installed

variable {n : Nat} {rig : Rig n} {config : Config} {link : Fin n} {wired : Bool} {hz : UInt32}
  {e : BuildError}

/-! ## The obstacles -/

theorem obstacle_of_divisor_eq_error (h : config.divisor hz = .error e) :
    config.role = .master ∧ Obstacle config.rate hz e := by
  rw [Config.divisor] at h
  split at h
  · cases h
  · rename_i master
    refine ⟨master, ?_⟩
    split at h
    · rename_i hc
      cases h
      obtain ⟨outside, rfl⟩ := SampleRate.checked_eq_error_iff.mp hc
      exact .rate outside
    · rename_i hc
      obtain ⟨inside, rfl⟩ := SampleRate.checked_eq_ok_iff.mp hc
      split at h
      · rename_i hn
        cases h
        obtain ⟨zero, rfl⟩ | ⟨runs, rest, rfl⟩ | ⟨-, -, zero, -⟩ :=
          Divisor.nearest_eq_error_iff.mp hn
        · exact .still inside zero
        · exact .uneven inside runs rest
        · -- a rate of zero was out of range
          exact absurd (zero ▸ inside.1) (by decide)
      · cases h

theorem divisor_of_obstacle (master : config.role = .master) (h : Obstacle config.rate hz e) :
    config.divisor hz = .error e := by
  rw [Config.divisor, master]
  dsimp only
  cases h with
  | rate outside => rw [SampleRate.checked_eq_error_iff.mpr ⟨outside, rfl⟩]
  | still inside zero =>
    rw [SampleRate.checked_eq_ok_iff.mpr ⟨inside, rfl⟩]
    dsimp only
    rw [Divisor.nearest_eq_error_iff.mpr (.inl ⟨zero, rfl⟩)]
  | uneven inside runs rest =>
    rw [SampleRate.checked_eq_ok_iff.mpr ⟨inside, rfl⟩]
    dsimp only
    rw [Divisor.nearest_eq_error_iff.mpr (.inr (.inl ⟨runs, rest, rfl⟩))]

/-- **The obstacles are the failures.** -/
theorem divisor_eq_error_iff :
    config.divisor hz = .error e ↔ config.role = .master ∧ Obstacle config.rate hz e :=
  ⟨obstacle_of_divisor_eq_error, fun h => divisor_of_obstacle h.1 h.2⟩

/-! ## Failures -/

/-- Building asks about the divisor and about nothing else. -/
theorem install_eq_error_iff :
    (rig.install config link wired).1 = .error e ↔
      config.role = .master ∧ Obstacle config.rate rig.peripheral.sourceHz e := by
  rw [← divisor_eq_error_iff, Rig.install]
  cases config.divisor rig.peripheral.sourceHz with
  | error e' =>
    constructor <;>
    · intro h
      cases h
      rfl
  | ok divisor =>
    constructor <;>
    · intro h
      cases h

/-- **A failure leaves the rig as it was.** -/
theorem install_of_eq_error (h : (rig.install config link wired).1 = .error e) :
    rig.install config link wired = (.error e, rig) := by
  have hd := divisor_eq_error_iff.mpr (install_eq_error_iff.mp h)
  rw [Rig.install, hd]

/-- **When building fails, at what, and that nothing comes of it.** An engine that makes the clock
is refused for its rate, and otherwise for a source that stands still, and otherwise for a source
that is not made of whole frames; in every other case it is built, and so is every engine that
follows a clock. A rate of zero is never what the divisor is refused for. After a failure the rig is
as it was, and it stays so when the failure is let go. -/
theorem install_refusals (rig : Rig n) (config : Config) (link : Fin n) (wired : Bool) :
    let fs := config.rate.hz.toNat
    let source := rig.peripheral.sourceHz
    let outcome := (rig.install config link wired).1
    let left := (rig.install config link wired).2
    (config.role = .master →
        (outcome = .error (.rate ⟨config.rate.hz, 8000, 192000⟩) ↔ ¬(8000 ≤ fs ∧ fs ≤ 192000)) ∧
          (outcome = .error (.clock .zeroSource) ↔ (8000 ≤ fs ∧ fs ≤ 192000) ∧ source = 0) ∧
          (outcome = .error (.clock (.sourceNotFrameAligned source)) ↔
            (8000 ≤ fs ∧ fs ≤ 192000) ∧ source ≠ 0 ∧ source.toNat % 64 ≠ 0) ∧
          ((∃ engine, outcome = .ok engine) ↔
            (8000 ≤ fs ∧ fs ≤ 192000) ∧ source ≠ 0 ∧ source.toNat % 64 = 0)) ∧
      (config.role = .slave → ∃ engine, outcome = .ok engine) ∧
      outcome ≠ .error (.clock .zeroRate) ∧
      ∀ e, outcome = .error e → left = rig ∧ left.letGo outcome = rig := by
  intro fs source outcome left
  refine ⟨fun master => ⟨?_, ?_, ?_, exists_install_eq_ok_iff master⟩, fun slave => ?_, ?_, ?_⟩
  · refine install_eq_error_iff.trans ⟨fun ⟨_, h⟩ => ?_, fun h => ⟨master, .rate h⟩⟩
    cases h
    assumption
  · refine install_eq_error_iff.trans ⟨fun ⟨_, h⟩ => ?_, fun h => ⟨master, .still h.1 h.2⟩⟩
    cases h
    exact ⟨‹_›, ‹_›⟩
  · refine install_eq_error_iff.trans
      ⟨fun ⟨_, h⟩ => ?_, fun h => ⟨master, .uneven h.1 h.2.1 h.2.2⟩⟩
    cases h
    exact ⟨‹_›, ‹_›, ‹_›⟩
  · exact ⟨_, congrArg Prod.fst (install_of_following slave)⟩
  · intro h
    exact nomatch (install_eq_error_iff.mp h).2
  · intro e h
    have same : left = rig := congrArg Prod.snd (install_of_eq_error h)
    refine ⟨same, ?_⟩
    rw [h, same]
    rfl

/-- Where everything is wrong it is the rate that is blamed, and nothing comes of it. -/
theorem install_refusals_rate :
    let rig : Rig 1 := { Rig.bare none with peripheral := { sourceHz := 0 } }
    let config : Config :=
      { mode := .duplex, chunk := ⟨64, by decide, by decide⟩, rate := .external 0 }
    config.role = .master ∧
      (rig.install config 0 false).1 = .error (.rate ⟨0, 8000, 192000⟩) ∧
      (rig.install config 0 false).2 = rig := by
  intro rig config
  obtain ⟨refusals, -, -, untouched⟩ := install_refusals rig config 0 false
  have refused := (refusals rfl).1.mpr (by decide)
  exact ⟨rfl, refused, (untouched _ refused).1⟩

end Installed

end SerialAudio
