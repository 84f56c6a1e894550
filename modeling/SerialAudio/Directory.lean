import SerialAudio.Clock.Word
/-!
# The directory of devices

A device that can be used is listed by name. Withdrawing a name removes every entry with that name
and leaves the others in order; the withdrawals are counted, whether they removed anything or not.
The count is a word that stops at the greatest one.
-/

namespace SerialAudio

/-- The names of the devices that can be used. -/
structure Directory where
  /-- The listed names, in the order in which they were added. -/
  names : List String := []
  /-- The word that counts the withdrawals. -/
  withdrawals : UInt64 := 0
deriving DecidableEq, Repr, Inhabited

namespace Directory

/-- How often a name was withdrawn, as far as a word can tell. -/
def removals (d : Directory) : Nat := d.withdrawals.toNat

/-- List a name. -/
def add (d : Directory) (name : String) : Directory := { d with names := d.names ++ [name] }

/-- Withdraw a name. -/
def remove (d : Directory) (name : String) : Directory :=
  ⟨d.names.filter (· ≠ name), Clock.addClamped d.withdrawals 1⟩

variable {d : Directory} {name : String}

theorem not_mem_names_remove : name ∉ (d.remove name).names := by simp [remove]

@[simp] theorem removals_add : (d.add name).removals = d.removals := rfl

@[simp] theorem removals_remove :
    (d.remove name).removals = min (d.removals + 1) (UInt64.size - 1) :=
  Clock.toNat_clampWord_eq_min _

/-- A withdrawal is counted as long as the count fits in a word. -/
theorem removals_remove_of_lt (room : d.removals + 1 < UInt64.size) :
    (d.remove name).removals = d.removals + 1 :=
  Clock.toNat_clampWord room

end Directory

end SerialAudio
