import SerialAudio.Proofs.Clock.Rounding
import Mathlib.Algebra.Group.Nat.Defs
/-!
# Half up, in words

A divisor is computed from two 32-bit words, the frames of the source and the rate. The whole
divisions and what they leave over are 32-bit words again. The fraction takes 64 bits on its way:
the rest in steps, half a rate to round with, their sum, and the quotient. `Divisor.ofRatio` has the
same numbers without a width, and this is where the two are compared.

## Why nothing wraps around

A rest is a 32-bit word, whatever the rate is, and a step is a part in 4096. So the rest in steps
has 44 bits, and the half rate that is added to it has 31. The bound that is shown, 45 bits, does
not look at the rate at all.

## Why an odd rate does no harm

Half of an odd rate is no whole number, and what rounding adds is half a unit short of it. The sum
is short of a whole number by the same half, so the quotient is the one that a rounding without the
loss would have given. `ratioSteps_eq_halfUp` doubles both sides to say so.

## Main results

* `map_toNat_fractionWords`, `fractionWords_le` — the words are the exact numbers, of 45 bits
* `ofRatio_eq_ofWords` — the divisor is the one that comes out of the words
* `nearest_half_up` — every source and every rate, with the divisor or with what is blamed
-/

namespace SerialAudio

namespace Clock

/-! ## The words of a fraction -/

/-- What the whole divisions leave over, in steps. -/
def restWord (rest : UInt32) : UInt64 := rest.toUInt64 * UInt64.ofNat stepsPerUnit

/-- Half of a rate. If the rate is odd, the half of a unit is lost. -/
def halfWord (hz : UInt32) : UInt64 := hz.toUInt64 / 2

/-- The fraction of a division, rounded half up to a step, before any carry. -/
def fractionWord (rest hz : UInt32) : UInt64 := (restWord rest + halfWord hz) / hz.toUInt64

/-- Every word on the way to a fraction, in the order in which they are computed. -/
def fractionWords (rest hz : UInt32) : List UInt64 :=
  [restWord rest, halfWord hz, restWord rest + halfWord hz, fractionWord rest hz]

/-- The numbers that those words stand for. -/
def fractionNumbers (rest hz : Nat) : List Nat :=
  [rest * 4096, hz / 2, rest * 4096 + hz / 2, (rest * 4096 + hz / 2) / hz]

variable {base rest hz : UInt32}

theorem toNat_restWord (rest : UInt32) : (restWord rest).toNat = rest.toNat * 4096 := by
  have small := rest.toNat_lt
  rw [restWord, UInt64.toNat_mul, UInt32.toNat_toUInt64]
  exact Nat.mod_eq_of_lt (by show rest.toNat * 4096 < 2 ^ 64; omega)

theorem toNat_halfWord (hz : UInt32) : (halfWord hz).toNat = hz.toNat / 2 := by
  rw [halfWord, UInt64.toNat_div, UInt32.toNat_toUInt64]
  rfl

theorem toNat_restWord_add_halfWord (rest hz : UInt32) :
    (restWord rest + halfWord hz).toNat = rest.toNat * 4096 + hz.toNat / 2 := by
  have smallRest := rest.toNat_lt
  have smallRate := hz.toNat_lt
  rw [UInt64.toNat_add, toNat_restWord, toNat_halfWord]
  exact Nat.mod_eq_of_lt (by omega)

theorem toNat_fractionWord (rest hz : UInt32) :
    (fractionWord rest hz).toNat = (rest.toNat * 4096 + hz.toNat / 2) / hz.toNat := by
  rw [fractionWord, UInt64.toNat_div, toNat_restWord_add_halfWord, UInt32.toNat_toUInt64]

/-- **The words are the exact numbers.** None of them wraps around. -/
theorem map_toNat_fractionWords (rest hz : UInt32) :
    (fractionWords rest hz).map UInt64.toNat = fractionNumbers rest.toNat hz.toNat := by
  simp only [fractionWords, fractionNumbers, List.map_cons, List.map_nil, toNat_restWord,
    toNat_halfWord, toNat_restWord_add_halfWord, toNat_fractionWord]

/-- **None of the words is beyond 45 bits.** -/
theorem fractionWords_le (rest hz : UInt32) : ∀ w ∈ fractionWords rest hz, w.toNat ≤ 2 ^ 45 := by
  have smallRest := rest.toNat_lt
  have smallRate := hz.toNat_lt
  have quotient : (rest.toNat * 4096 + hz.toNat / 2) / hz.toNat ≤ _ := Nat.div_le_self ..
  intro w hw
  have number := List.mem_map_of_mem (f := UInt64.toNat) hw
  rw [map_toNat_fractionWords] at number
  simp only [fractionNumbers, List.mem_cons, List.not_mem_nil, or_false] at number
  omega

/-- The words make the fraction of the two numbers. -/
theorem toNat_fractionWord_mod (base hz : UInt32) :
    (fractionWord (base % hz) hz).toNat = roundedFraction base.toNat hz.toNat := by
  rw [toNat_fractionWord, UInt32.toNat_mod]
  rfl

end Clock

open Clock

namespace Divisor

variable {base hz : Nat} {source : UInt32} {rate : SampleRate} {d : Divisor}

/-! ## The words of a divisor -/

/-- The divisor of `base / hz` frames, as it comes out of words. -/
def ofWords (base hz : UInt32) : Divisor :=
  let fraction := fractionWord (base % hz) hz
  if fraction ≤ UInt64.ofNat greatestFraction then ⟨base / hz, fraction.toUInt16⟩
  else ⟨succClamped (base / hz), 0⟩

/-- **The divisor is the one that comes out of the words.** -/
theorem ofRatio_eq_ofWords (base hz : UInt32) : ofRatio base.toNat hz.toNat = ofWords base hz := by
  have whole : UInt32.ofNat (base.toNat / hz.toNat) = base / hz := by
    rw [← UInt32.toNat_div, UInt32.ofNat_toNat]
  have fraction : UInt16.ofNat (roundedFraction base.toNat hz.toNat) =
      (fractionWord (base % hz) hz).toUInt16 := by
    rw [← toNat_fractionWord_mod]
    rfl
  have fits : roundedFraction base.toNat hz.toNat ≤ greatestFraction ↔
      fractionWord (base % hz) hz ≤ UInt64.ofNat greatestFraction := by
    rw [UInt64.le_iff_toNat_le, toNat_fractionWord_mod]
    rfl
  simp only [ofRatio, ofWords, whole, fraction, fits]

/-- **The carry finds room.** A source has far fewer frames than the greatest word, so there is a
successor for every number of whole divisions. -/
theorem toNat_succClamped_whole (source hz : UInt32) :
    (succClamped (source / 64 / hz)).toNat = (source / 64 / hz).toNat + 1 := by
  have frames : (source / 64).toNat = source.toNat / 64 := UInt32.toNat_div ..
  have whole : (source / 64 / hz).toNat ≤ source.toNat / 64 := by
    rw [UInt32.toNat_div, frames]
    exact Nat.div_le_self _ _
  have room := frames_lt_size source
  exact toNat_succClamped (by omega)

/-! ## Half up -/

/-- The steps of a ratio are the quotient to which a half was added before it was rounded down. -/
theorem ratioSteps_eq_halfUp : ratioSteps base hz = (8192 * base + hz) / (2 * hz) := by
  have halves : (8192 * base + hz) / 2 = base * 4096 + hz / 2 := by omega
  rw [← Nat.div_div_eq_div_mul, halves]
  rfl

/-- **A divisor is off by half a step at most.** -/
theorem natAbs_ratioSteps_sub_le (pos : 0 < hz) :
    2 * ((ratioSteps base hz : Int) * hz - 4096 * base).natAbs ≤ hz := by
  have above : ratioSteps base hz * hz ≤ base * 4096 + hz / 2 := ratioSteps_mul_le
  have below : base * 4096 + hz / 2 < ratioSteps base hz * hz + hz := lt_ratioSteps_mul pos
  have product : (ratioSteps base hz : Int) * hz = (ratioSteps base hz * hz : Nat) :=
    (Int.natCast_mul _ _).symm
  rw [product]
  omega

/-- **A divisor is the nearest step, and a tie goes up.** A source that stands still has none, a
source without a whole number of frames has none either, and neither has a rate of nothing; in this
order they are blamed. Any other source has one for any other rate, however slow or fast the two
are. Its fraction is below a whole division, and counted in steps it is the ratio with a half added
and then rounded down, so it is off by half a step at most. It is what comes out of words of 64 bits
that stay within 45, and the carry never finds the greatest word. -/
theorem nearest_half_up (source : UInt32) (rate : SampleRate) :
    let base := source.toNat / 64
    let fs := rate.hz.toNat
    let rest := source / 64 % rate.hz
    (nearest source rate = .error .zeroSource ↔ source.toNat = 0) ∧
      (∀ hz, nearest source rate = .error (.sourceNotFrameAligned hz) ↔
        source.toNat ≠ 0 ∧ source.toNat % 64 ≠ 0 ∧ hz = source) ∧
      (nearest source rate = .error .zeroRate ↔
        source.toNat ≠ 0 ∧ source.toNat % 64 = 0 ∧ fs = 0) ∧
      (source.toNat ≠ 0 ∧ source.toNat % 64 = 0 ∧ fs ≠ 0 →
        ∃ d, nearest source rate = .ok d ∧ d.fraction.toNat ≤ 4095 ∧
          4096 * d.integer.toNat + d.fraction.toNat = (8192 * base + fs) / (2 * fs) ∧
          2 * (((4096 * d.integer.toNat + d.fraction.toNat : Nat) : Int) * fs
            - 4096 * base).natAbs ≤ fs ∧
          d = ofWords (source / 64) rate.hz) ∧
      (fractionWords rest rate.hz).map UInt64.toNat = fractionNumbers (base % fs) fs ∧
      (∀ w ∈ fractionWords rest rate.hz, w.toNat ≤ 2 ^ 45) ∧
      (succClamped (source / 64 / rate.hz)).toNat = (source / 64 / rate.hz).toNat + 1 := by
  intro base fs rest
  have hsource : source = 0 ↔ source.toNat = 0 := UInt32.toNat_inj.symm
  have hrate : rate.hz = 0 ↔ fs = 0 := UInt32.toNat_inj.symm
  have frames : (source / 64).toNat = base := UInt32.toNat_div ..
  refine ⟨?_, ?_, ?_, ?_, ?_, fractionWords_le _ _, toNat_succClamped_whole _ _⟩
  · simp [nearest_eq_error_iff, hsource]
  · intro hz
    simp [nearest_eq_error_iff, hsource]
  · simp [nearest_eq_error_iff, hsource, hrate]
  · rintro ⟨runs, aligned, asked⟩
    have pos : 0 < fs := Nat.pos_of_ne_zero asked
    have found : nearest source rate = .ok (ofRatio base fs) :=
      nearest_eq_ok_iff.mpr ⟨⟨mt hsource.mp runs, aligned, mt hrate.mp asked⟩, rfl⟩
    have steps : 4096 * (ofRatio base fs).integer.toNat + (ofRatio base fs).fraction.toNat =
        ratioSteps base fs := by
      rw [← steps_ofRatio pos (frames_lt_size source), Divisor.steps, Nat.mul_comm]
      rfl
    refine ⟨_, found, fraction_ofRatio_le, steps.trans ratioSteps_eq_halfUp, ?_, ?_⟩
    · rw [steps]
      exact natAbs_ratioSteps_sub_le pos
    · rw [← ofRatio_eq_ofWords, frames]
  · rw [map_toNat_fractionWords, UInt32.toNat_mod, frames]

/-- An odd rate whose rest rounds up to a whole division. -/
theorem nearest_half_up_odd :
    ∃ d, nearest 1048640 (.external 8193) = .ok d ∧ d.fraction.toNat ≤ 4095 ∧
      4096 * d.integer.toNat + d.fraction.toNat = 8192 ∧ d = ofWords 16385 8193 := by
  obtain ⟨-, -, -, divisor, -⟩ := nearest_half_up 1048640 (.external 8193)
  obtain ⟨d, found, below, steps, -, words⟩ := divisor (by decide)
  exact ⟨d, found, below, steps.trans (by decide), words⟩

end Divisor

end SerialAudio
