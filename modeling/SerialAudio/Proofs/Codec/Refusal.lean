import SerialAudio.Proofs.Codec.Trials
/-!
# Tables that are refused

Writing a table stops at its first word that is not taken. Whether a table is refused can be said
without following the writer: some word fails if the words are numbered on from the transactions
that were made already. The writer never reaches the words behind the first failure, but a failure
there needs no exception, because there is an earlier one then.

## Main results

* `cause_trial_eq_none_iff` — a table is taken exactly if none of its words fails
* `setUp_fixed_of_refuses`, `setUp_of_not_refuses` — a fixed address is the only way to fail
-/

namespace SerialAudio

variable {ε : Type} {b : ControlBus ε} {address : UInt8}

namespace ControlBus

/-- Some of the words fails, sent one after the other in transactions of their own. -/
def Refuses (b : ControlBus ε) (address : UInt8) (ws : List ControlWord) : Prop :=
  ∃ i, ∃ h : i < ws.length, b.behaviour (b.record.length + i) address [.write ws[i].bytes] ≠ none

theorem not_refuses_iff {ws : List ControlWord} :
    ¬b.Refuses address ws ↔ ∀ x ∈ b.sending address ws, x.failure = none := by
  constructor
  · intro h x hx
    obtain ⟨i, hi, rfl⟩ := List.mem_mapIdx.mp hx
    exact Classical.not_not.mp fun hf => h ⟨i, hi, hf⟩
  · rintro h ⟨i, hi, hf⟩
    exact hf (h _ (List.mem_mapIdx.mpr ⟨i, hi, rfl⟩))

end ControlBus

namespace Codec

/-- **A table is taken exactly if none of its words fails.** -/
theorem cause_trial_eq_none_iff {family : Family} :
    (trial b address family).cause = none ↔ ¬b.Refuses address family.table := by
  rw [cause_trial, List.findSome?_eq_none_iff, ControlBus.not_refuses_iff]

/-- A codec that has to be there and does not take its table is a failure. -/
theorem setUp_fixed_of_refuses (h : b.Refuses address (Family.atAddress address).table) :
    ∃ cause b', setUp b (.fixed address) =
      (.error ⟨Family.atAddress address, address, cause⟩, b') := by
  rw [setUp_fixed_eq]
  cases hc : (trial b address (Family.atAddress address)).cause with
  | none => exact absurd h (cause_trial_eq_none_iff.mp hc)
  | some cause => exact ⟨cause, _, rfl⟩

/-- Nothing else is: a place that was only guessed may be empty. -/
theorem setUp_of_not_refuses {a : Address}
    (h : ∀ address, a = .fixed address → ¬b.Refuses address (Family.atAddress address).table) :
    ∃ status b', setUp b a = (.ok status, b') := by
  cases a with
  | probe => exact ⟨_, _, rfl⟩
  | fixed address =>
    rw [setUp_fixed_eq, cause_trial_eq_none_iff.mpr (h address rfl)]
    exact ⟨_, _, rfl⟩

end Codec

end SerialAudio
