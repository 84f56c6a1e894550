import SerialAudio.Clock.Divisor
/-!
# The nearest step

A divisor is computed in two parts: the whole divisions, and what they leave over, rounded to a
step. Counted in steps the two parts are a single division, and the carry is what makes them agree
where the second part rounds up to a whole division. So everything about a divisor is read off
`ratioSteps`, and its parts are only looked at here.

## How slow a source may be

A divisor has a whole division exactly if it has 4096 steps. A source that is too slow for a rate
does not have them, and nothing keeps it from getting a divisor. The half step that rounding adds
makes the bound a little lower than one frame of the source for each frame of the rate.

## Main results

* `steps_ofRatio` — the two parts are one rounded division
* `ratioSteps_mul_le`, `lt_ratioSteps_mul` — which is off by half a step at most
* `one_le_integer_ofRatio_iff` — the sources that are fast enough for a whole division
* `nearest_eq_ok_iff`, `nearest_eq_error_iff` — the sources and rates that have a divisor, and what
  is blamed where there is none
-/

namespace SerialAudio

open Clock

namespace Divisor

variable {base hz : Nat} {source : UInt32} {rate : SampleRate} {d : Divisor}

/-- The ratio of two numbers in steps, rounded half up. -/
def ratioSteps (base hz : Nat) : Nat := (base * stepsPerUnit + hz / 2) / hz

/-! ## The two parts -/

theorem ratioSteps_eq (pos : 0 < hz) :
    ratioSteps base hz = base / hz * stepsPerUnit + roundedFraction base hz := by
  have split : base * stepsPerUnit + hz / 2 =
      base % hz * stepsPerUnit + hz / 2 + hz * (base / hz * stepsPerUnit) := by
    calc base * stepsPerUnit + hz / 2
        = (base % hz + hz * (base / hz)) * stepsPerUnit + hz / 2 := by rw [Nat.mod_add_div]
      _ = _ := by rw [Nat.add_mul, Nat.mul_assoc, Nat.add_right_comm]
  rw [ratioSteps, split, Nat.add_mul_div_left _ _ pos, Nat.add_comm, roundedFraction]

/-- What is left over rounds up to a whole division at most. -/
theorem roundedFraction_le (pos : 0 < hz) : roundedFraction base hz ≤ stepsPerUnit := by
  have left : base % hz < hz := Nat.mod_lt _ pos
  refine Nat.le_of_lt_succ (Nat.div_lt_of_lt_mul ?_)
  show base % hz * 4096 + hz / 2 < hz * 4097
  omega

theorem toNat_succClamped {n : UInt32} (h : n.toNat + 1 < UInt32.size) :
    (succClamped n).toNat = n.toNat + 1 := by
  have hn : n ≠ UInt32.ofNat (UInt32.size - 1) := by
    rintro rfl
    exact absurd h (by decide)
  rw [succClamped, if_neg hn, UInt32.toNat_add]
  exact Nat.mod_eq_of_lt h

/-- The frames of a source leave the greatest word free, whatever the source is. -/
theorem frames_lt_size (source : UInt32) : source.toNat / 64 + 1 < UInt32.size := by
  have := source.toNat_lt
  show source.toNat / 64 + 1 < 2 ^ 32
  omega

/-- The carry never finds the greatest word: there are no more whole divisions than frames. -/
theorem toNat_whole (fits : base + 1 < UInt32.size) :
    (UInt32.ofNat (base / hz)).toNat = base / hz := by
  have := Nat.div_le_self base hz
  exact UInt32.toNat_ofNat_of_lt (by omega)

/-- A fraction that is not carried fits in its word. -/
theorem toNat_left (h : roundedFraction base hz ≤ greatestFraction) :
    (UInt16.ofNat (roundedFraction base hz)).toNat = roundedFraction base hz :=
  UInt16.toNat_ofNat_of_lt' (Nat.lt_of_le_of_lt h (by decide))

theorem ofRatio_of_le (h : roundedFraction base hz ≤ greatestFraction) :
    ofRatio base hz = ⟨UInt32.ofNat (base / hz), UInt16.ofNat (roundedFraction base hz)⟩ := if_pos h

theorem ofRatio_of_not_le (h : ¬roundedFraction base hz ≤ greatestFraction) :
    ofRatio base hz = ⟨succClamped (UInt32.ofNat (base / hz)), 0⟩ := if_neg h

/-- **The fraction stays below a whole division.** -/
theorem fraction_ofRatio_le : (ofRatio base hz).fraction.toNat ≤ greatestFraction := by
  by_cases h : roundedFraction base hz ≤ greatestFraction
  · rw [ofRatio_of_le h, toNat_left h]
    exact h
  · rw [ofRatio_of_not_le h]
    exact Nat.zero_le _

/-- **The two parts are one rounded division.** -/
theorem steps_ofRatio (pos : 0 < hz) (fits : base + 1 < UInt32.size) :
    (ofRatio base hz).steps = ratioSteps base hz := by
  rw [ratioSteps_eq pos]
  by_cases h : roundedFraction base hz ≤ greatestFraction
  · rw [ofRatio_of_le h, steps, toNat_whole fits, toNat_left h]
  · -- what rounds up to a whole division is carried, and leaves no fraction
    have carry : roundedFraction base hz = stepsPerUnit :=
      Nat.le_antisymm (roundedFraction_le pos) (Nat.succ_le_of_lt (Nat.lt_of_not_le h))
    have room : (UInt32.ofNat (base / hz)).toNat + 1 < UInt32.size := by
      rw [toNat_whole fits]
      have := Nat.div_le_self base hz
      omega
    rw [ofRatio_of_not_le h, steps, toNat_succClamped room, toNat_whole fits, carry, Nat.add_mul,
      Nat.one_mul]
    exact Nat.add_zero _

/-! ## Half a step -/

theorem ratioSteps_mul_le : ratioSteps base hz * hz ≤ base * stepsPerUnit + hz / 2 :=
  Nat.div_mul_le_self _ _

theorem lt_ratioSteps_mul (pos : 0 < hz) :
    base * stepsPerUnit + hz / 2 < ratioSteps base hz * hz + hz :=
  Nat.lt_div_mul_add pos

/-- A source with a frame for each frame of the rate leaves a whole division. -/
theorem stepsPerUnit_le_ratioSteps (pos : 0 < hz) (fast : hz ≤ base) :
    stepsPerUnit ≤ ratioSteps base hz := by
  rw [ratioSteps, Nat.le_div_iff_mul_le pos, Nat.mul_comm]
  exact Nat.le_add_right_of_le (Nat.mul_le_mul_right _ fast)

/-- There is a whole division exactly if there are as many steps. -/
theorem one_le_integer_iff_steps (h : d.fraction.toNat ≤ greatestFraction) :
    1 ≤ d.integer.toNat ↔ stepsPerUnit ≤ d.steps := by
  have hg : greatestFraction = 4095 := rfl
  have hs : stepsPerUnit = 4096 := rfl
  rw [steps, hs]
  omega

/-- **The sources that are fast enough for a whole division.** -/
theorem one_le_integer_ofRatio_iff (pos : 0 < hz) (fits : base + 1 < UInt32.size) :
    1 ≤ (ofRatio base hz).integer.toNat ↔ 8192 * (hz - base) ≤ hz := by
  rw [one_le_integer_iff_steps fraction_ofRatio_le, steps_ofRatio pos fits, ratioSteps,
    Nat.le_div_iff_mul_le pos]
  show 4096 * hz ≤ base * 4096 + hz / 2 ↔ _
  omega

/-! ## Which divisors there are -/

/-- **The sources and rates that have a divisor.** The speed of the source is no part of that. -/
theorem nearest_eq_ok_iff :
    nearest source rate = .ok d ↔ (source ≠ 0 ∧ source.toNat % 64 = 0 ∧ rate.hz ≠ 0) ∧
      d = ofRatio (source.toNat / 64) rate.hz.toNat := by
  have bits : Frame.bits = 64 := rfl
  rw [nearest, bits]
  split
  · exact ⟨nofun, fun h => absurd ‹_› h.1.1⟩
  · split
    · exact ⟨nofun, fun h => absurd h.1.2.1 ‹_›⟩
    · split
      · exact ⟨nofun, fun h => absurd ‹_› h.1.2.2⟩
      · rename_i hs ha hr
        constructor
        · intro h
          cases h
          exact ⟨⟨hs, Decidable.not_not.mp ha, hr⟩, rfl⟩
        · rintro ⟨-, rfl⟩
          rfl

/-- **The sources and rates that have none, and what is blamed.** The source is looked at before the
rate, and a source that stands still is not also blamed for its frames. -/
theorem nearest_eq_error_iff {e : ClockError} :
    nearest source rate = .error e ↔
      (source = 0 ∧ e = .zeroSource) ∨
        (source ≠ 0 ∧ source.toNat % 64 ≠ 0 ∧ e = .sourceNotFrameAligned source) ∨
          (source ≠ 0 ∧ source.toNat % 64 = 0 ∧ rate.hz = 0 ∧ e = .zeroRate) := by
  have bits : Frame.bits = 64 := rfl
  rw [nearest, bits]
  by_cases hs : source = 0
  · simp [hs, eq_comm]
  · by_cases ha : source.toNat % 64 = 0
    · by_cases hr : rate.hz = 0
      · simp [hs, ha, hr, eq_comm]
      · simp [hs, ha, hr]
    · simp [hs, ha, eq_comm]

end Divisor

end SerialAudio
