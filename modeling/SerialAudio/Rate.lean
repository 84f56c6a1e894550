/-!
# Sample rates

A rate is a number of frames per second. The clock generator of this link serves 8000 to 192000,
but a rate outside that range is not meaningless: a block whose clocks are driven from outside
runs at whatever rate it is given. So the type carries any 32-bit rate, and the range is checked by
the smart constructor `SampleRate.checked` where this block makes the clock itself.
-/

namespace SerialAudio

/-- A number that lies outside its closed range. -/
structure RangeError where
  /-- The number that was refused. -/
  value : UInt32
  /-- The least number of the range. -/
  least : UInt32
  /-- The greatest number of the range. -/
  greatest : UInt32
deriving DecidableEq, Repr

/-- The text shown for a number outside its range. -/
def RangeError.message (e : RangeError) : String :=
  s!"value {e.value} outside {e.least}..={e.greatest}"

/-- A number of frames per second. -/
structure SampleRate where
  /-- Frames per second. -/
  hz : UInt32
deriving DecidableEq, Repr

namespace SampleRate

/-- The slowest rate of the clock generator. -/
def slowest : UInt32 := 8000

/-- The fastest rate of the clock generator. -/
def fastest : UInt32 := 192000

/-- The rate `hz`, if the clock generator serves it. -/
def checked (hz : UInt32) : Except RangeError SampleRate :=
  if slowest ≤ hz ∧ hz ≤ fastest then .ok ⟨hz⟩ else .error ⟨hz, slowest, fastest⟩

/-- A rate that somebody else is responsible for, so any number will do. -/
def external (hz : UInt32) : SampleRate := ⟨hz⟩

theorem checked_of_mem {hz : UInt32} (h : slowest ≤ hz ∧ hz ≤ fastest) :
    checked hz = .ok ⟨hz⟩ := if_pos h

theorem checked_of_not_mem {hz : UInt32} (h : ¬(slowest ≤ hz ∧ hz ≤ fastest)) :
    checked hz = .error ⟨hz, slowest, fastest⟩ := if_neg h

/-- The rates that the clock generator serves, as numbers. -/
theorem mem_range_iff {hz : UInt32} :
    (slowest ≤ hz ∧ hz ≤ fastest) ↔ 8000 ≤ hz.toNat ∧ hz.toNat ≤ 192000 := by
  rw [UInt32.le_iff_toNat_le, UInt32.le_iff_toNat_le]
  rfl

theorem checked_eq_ok_iff {hz : UInt32} {rate : SampleRate} :
    checked hz = .ok rate ↔ (8000 ≤ hz.toNat ∧ hz.toNat ≤ 192000) ∧ rate = ⟨hz⟩ := by
  rw [← mem_range_iff]
  by_cases h : slowest ≤ hz ∧ hz ≤ fastest
  · rw [checked_of_mem h]
    constructor
    · intro hr
      cases hr
      exact ⟨h, rfl⟩
    · rintro ⟨-, rfl⟩
      rfl
  · rw [checked_of_not_mem h]
    constructor
    · intro hr
      cases hr
    · rintro ⟨mem, -⟩
      exact absurd mem h

theorem checked_eq_error_iff {hz : UInt32} {e : RangeError} :
    checked hz = .error e ↔ ¬(8000 ≤ hz.toNat ∧ hz.toNat ≤ 192000) ∧ e = ⟨hz, 8000, 192000⟩ := by
  rw [← mem_range_iff]
  by_cases h : slowest ≤ hz ∧ hz ≤ fastest
  · rw [checked_of_mem h]
    exact ⟨nofun, fun he => absurd h he.1⟩
  · rw [checked_of_not_mem h]
    constructor
    · intro he
      cases he
      exact ⟨h, rfl⟩
    · rintro ⟨-, rfl⟩
      rfl

end SampleRate

/-- How a caller asks for a rate. -/
inductive RateRequest where
  /-- A rate that this block has to make. -/
  | rated (hz : UInt32)
  /-- A rate that comes from outside. -/
  | external (hz : UInt32)
deriving DecidableEq, Repr

/-- The rate that is asked for; only a rate that this block has to make can be refused. -/
def RateRequest.resolve : RateRequest → Except RangeError SampleRate
  | .rated hz => SampleRate.checked hz
  | .external hz => .ok (SampleRate.external hz)

end SerialAudio
