import SerialAudio.Proofs.Clock.Rounding
import Mathlib.Tactic.Ring
/-!
# The bit clock tracks the rate

A rate becomes a divisor, and a divisor becomes a bit clock again. Each way is a division, and the
two round in opposite directions: the divisor to the nearest step, the bit clock down. So the clock
that is shown may be above or below 64 clocks a frame, and the two bounds differ by the clock that
is lost at the end.

## Why the error is small

The divisor is off by half a step, whatever it is, so its relative error is small only because it
has 4096 steps or more. That is what a source with at least one frame for each frame of the rate
gives, and it is the only place where the speed of the source matters.

## Words

`Divisor.bitClock` counts in words that stop at the greatest one. They never come that far: 32 bits
times 4096 leave room in 64, for every source and every divisor, and a divisor of 4096 steps or more
makes no clock that is faster than its source.

## Main results

* `toNat_unitSteps`, `toNat_stepsWord`, `toNat_bitClock` — the words are the exact numbers
* `bitClock_bounds`, `bitClock_nearest` — the bit clock of a rate is off by less than a part in 8192
  and one clock
-/

namespace SerialAudio

open Clock

namespace Divisor

variable {source : UInt32} {rate : SampleRate} {d : Divisor}

/-! ## The words are the exact numbers -/

theorem toNat_unitSteps (units : UInt32) :
    (unitSteps units).toNat = units.toNat * stepsPerUnit := by
  have small : units.toNat * 4096 < 2 ^ 64 := by
    have := units.toNat_lt
    omega
  exact toNat_clampWord small

theorem toNat_stepsWord (d : Divisor) : d.stepsWord.toNat = d.steps := by
  have small : d.integer.toNat * 4096 + d.fraction.toNat < 2 ^ 64 := by
    have := d.integer.toNat_lt
    have := d.fraction.toNat_lt
    omega
  have sum : (unitSteps d.integer).toNat + d.fraction.toUInt64.toNat = d.steps := by
    rw [toNat_unitSteps, UInt16.toNat_toUInt64, steps]
  rw [stepsWord, addClamped, sum]
  exact toNat_clampWord small

/-- **The bit clock is the exact quotient, if a word holds it.** -/
theorem toNat_bitClock (fits : source.toNat * stepsPerUnit / d.steps < UInt32.size) :
    (bitClock source d).toNat = source.toNat * stepsPerUnit / d.steps := by
  have quotient : (unitSteps source / d.stepsWord).toNat =
      source.toNat * stepsPerUnit / d.steps := by
    rw [UInt64.toNat_div, toNat_unitSteps, toNat_stepsWord]
  rw [bitClock]
  split
  · -- without a step there is no quotient to speak of
    rename_i none
    rw [← toNat_stepsWord, none]
    exact (Nat.div_zero _).symm
  · dsimp only
    rw [quotient, if_pos fits, UInt64.toNat_toUInt32, quotient]
    exact Nat.mod_eq_of_lt fits

/-- A divisor with a whole division makes no clock that is faster than its source. -/
theorem quotient_lt_size (source : UInt32) (h : stepsPerUnit ≤ d.steps) :
    source.toNat * stepsPerUnit / d.steps < UInt32.size :=
  calc source.toNat * stepsPerUnit / d.steps
      ≤ source.toNat * stepsPerUnit / stepsPerUnit := Nat.div_le_div_left h (by decide)
    _ = source.toNat := Nat.mul_div_cancel _ (by decide)
    _ < UInt32.size := source.toNat_lt_size

/-! ## Half a step of the divisor in the bit clock -/

/-- Steps that are off by half a step, and 4096 of them or more, make a quotient that is off by a
part in 8192. What is below it loses another clock to rounding down. -/
theorem quotient_bounds {x hz s b : Nat} (many : 4096 ≤ s) (le : s * hz ≤ x + hz / 2)
    (lt : x + hz / 2 < s * hz + hz) (floor : b * s ≤ 64 * x) (next : 64 * x < b * s + s) :
    128 * (64 * hz) < hz + 128 + 128 * b ∧ 128 * b ≤ hz + 128 * (64 * hz) := by
  have grow : 4096 * hz ≤ s * hz := Nat.mul_le_mul_right hz many
  have hs : 0 < s := Nat.lt_of_lt_of_le (by decide) many
  constructor
  · refine Nat.lt_of_mul_lt_mul_right (a := s) ?_
    calc 128 * (64 * hz) * s
        = 8192 * (s * hz) := by ring
      _ < 128 * (b * s) + 128 * s + s * hz := by omega
      _ = (hz + 128 + 128 * b) * s := by ring
  · refine Nat.le_of_mul_le_mul_right ?_ hs
    calc 128 * b * s
        = 128 * (b * s) := Nat.mul_assoc ..
      _ ≤ s * hz + 8192 * (s * hz) := by omega
      _ = (hz + 128 * (64 * hz)) * s := by ring

theorem stepsPerUnit_le_steps {hz : Nat} (pos : 0 < hz) (fast : hz ≤ source.toNat / 64) :
    stepsPerUnit ≤ (ofRatio (source.toNat / 64) hz).steps := by
  rw [steps_ofRatio pos (frames_lt_size source)]
  exact stepsPerUnit_le_ratioSteps pos fast

/-- Both bounds on the bit clock of a rate, without signs. -/
theorem bitClock_bounds {hz : Nat} (aligned : source.toNat % 64 = 0) (pos : 0 < hz)
    (fast : hz ≤ source.toNat / 64) :
    128 * (64 * hz) < hz + 128 + 128 * (bitClock source (ofRatio (source.toNat / 64) hz)).toNat ∧
      128 * (bitClock source (ofRatio (source.toNat / 64) hz)).toNat ≤ hz + 128 * (64 * hz) := by
  have hsteps := steps_ofRatio pos (frames_lt_size source)
  have many := stepsPerUnit_le_steps pos fast
  have quotient := toNat_bitClock (quotient_lt_size source many)
  generalize ofRatio (source.toNat / 64) hz = d at *
  have frames : source.toNat * stepsPerUnit = 64 * (source.toNat / 64 * stepsPerUnit) := by
    rw [← Nat.mul_assoc, Nat.mul_div_cancel' (Nat.dvd_of_mod_eq_zero aligned)]
  have hd : 0 < d.steps := Nat.lt_of_lt_of_le (by decide) many
  rw [quotient, frames]
  refine quotient_bounds many ?_ ?_ (Nat.div_mul_le_self _ _) (Nat.lt_div_mul_add hd)
  · rw [hsteps]
    exact ratioSteps_mul_le
  · rw [hsteps]
    exact lt_ratioSteps_mul pos

/-- **The bit clock of a rate is off by less than a part in 8192 and one clock.** A source that has
a whole number of frames a second, and no fewer of them than the rate, has a divisor, and the bit
clock that this divisor makes is as close to 64 clocks a frame as that, which is a tenth of a
percent for every rate that the clock generator serves. All the words on the way are the exact
numbers, and so is the result. -/
theorem bitClock_nearest (aligned : source.toNat % 64 = 0) (pos : 1 ≤ rate.hz.toNat)
    (fast : rate.hz.toNat ≤ source.toNat / 64) :
    ∃ d, nearest source rate = .ok d ∧
      let fs : Int := rate.hz.toNat
      let b : Int := (bitClock source d).toNat
      (128 * (64 * fs - b) < fs + 128 ∧ 128 * (b - 64 * fs) ≤ fs) ∧
      (8000 ≤ fs → fs ≤ 192000 →
        1000 * (64 * fs - b) ≤ 64 * fs ∧ 1000 * (b - 64 * fs) ≤ 64 * fs) ∧
      (unitSteps d.integer).toNat = d.integer.toNat * 4096 ∧
      d.stepsWord.toNat = d.integer.toNat * 4096 + d.fraction.toNat ∧
      (unitSteps source).toNat = source.toNat * 4096 ∧
      source.toNat * 4096 / d.steps < UInt32.size ∧
      (bitClock source d).toNat = source.toNat * 4096 / d.steps := by
  have hsource : source ≠ 0 := by
    rintro rfl
    exact absurd fast (Nat.not_le.mpr pos)
  have hrate : rate.hz ≠ 0 := by
    intro h
    rw [h] at pos
    exact absurd pos (by decide)
  refine ⟨_, nearest_eq_ok_iff.mpr ⟨⟨hsource, aligned, hrate⟩, rfl⟩, ?_⟩
  have fits := quotient_lt_size source (stepsPerUnit_le_steps pos fast)
  obtain ⟨below, above⟩ := bitClock_bounds aligned pos fast
  intro fs b
  exact ⟨by omega, by omega, toNat_unitSteps _, toNat_stepsWord _, toNat_unitSteps _, fits,
    toNat_bitClock fits⟩

/-- A rate whose divisor is carried to two whole divisions. -/
theorem bitClock_nearest_carried :
    (24575360 : UInt32).toNat % 64 = 0 ∧ 1 ≤ (SampleRate.external 192000).hz.toNat ∧
      (SampleRate.external 192000).hz.toNat ≤ (24575360 : UInt32).toNat / 64 ∧
      ∃ d, nearest 24575360 (.external 192000) = .ok d ∧
        128 * (64 * 192000 - ((bitClock 24575360 d).toNat : Int)) < 192000 + 128 ∧
        (bitClock 24575360 d).toNat = 24575360 * 4096 / d.steps := by
  have aligned : (24575360 : UInt32).toNat % 64 = 0 := by decide
  have pos : 1 ≤ (SampleRate.external 192000).hz.toNat := by decide
  have fast : (SampleRate.external 192000).hz.toNat ≤ (24575360 : UInt32).toNat / 64 := by decide
  obtain ⟨d, hd, ⟨below, -⟩, -, -, -, -, -, quotient⟩ := bitClock_nearest aligned pos fast
  exact ⟨aligned, pos, fast, d, hd, below, quotient⟩

end Divisor

end SerialAudio
