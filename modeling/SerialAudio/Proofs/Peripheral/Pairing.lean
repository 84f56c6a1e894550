import Mathlib.Data.List.Induction
import Mathlib.Logic.ExistsUnique
import SerialAudio.Peripheral.Replay
/-!
# Pairing the guards of a log

Which release belongs to which acquisition is a question about a flat log: each release is paired
with the nearest acquisition before it that has no release yet, and with nothing if there is none.
`Pairs` says just that of a function from places to places. Nothing in it counts, and nothing in it
goes through the log from one end to the other.

`unreleased` does go through the log, with the open acquisitions on a stack. That the two agree has
one reason: at any place of the log the stack holds the open places, nearest first. A release takes
the top of the stack, and the top is the nearest.

Where the guards are counted by a machine, it is in a word that stops at its greatest value instead
of wrapping around. Whatever changes the word is logged, so the word is known from the log, and a
log that is shorter than the number of words never brings it to the end.

## Main results

* `reverse_openPlaces` — the stack at a place holds the open places before it
* `pairs_iff` — there is exactly one pairing
* `length_openPlaces` — as many acquisitions are left open as the stack holds
* `toNat_guardWord` — the word counts them for fewer than 2^64 events
-/

namespace SerialAudio

namespace Event

variable {log : List Event} {partner : Nat → Option Nat} {i j k : Nat}

/-! ## Pairings -/

/-- The places before `j` of the acquisitions that no release before `j` is paired with, farthest
first. -/
def openPlaces (log : List Event) (partner : Nat → Option Nat) (j : Nat) : List Nat :=
  (List.range j).filter fun i => log[i]? = some .busEnter ∧ ∀ k < j, partner k ≠ some i

/-- The nearest acquisition before a release that is still open; anything but a release has none. -/
def nearestOpen (log : List Event) (partner : Nat → Option Nat) (j : Nat) : Option Nat :=
  if log[j]? = some .busExit then (openPlaces log partner j).getLast? else none

/-- Each release is paired with the nearest acquisition before it that is still open. -/
def Pairs (log : List Event) (partner : Nat → Option Nat) : Prop :=
  ∀ j, partner j = nearestOpen log partner j

theorem mem_openPlaces : i ∈ openPlaces log partner j ↔
    i < j ∧ log[i]? = some .busEnter ∧ ∀ k < j, partner k ≠ some i := by
  rw [openPlaces, List.mem_filter, List.mem_range, decide_eq_true_iff]

theorem nodup_openPlaces : (openPlaces log partner j).Nodup :=
  List.nodup_range.filter _

/-- A release is paired with what lies before it. -/
theorem lt_of_nearestOpen (h : nearestOpen log partner k = some i) : i < k := by
  rw [nearestOpen] at h
  split at h
  · exact (mem_openPlaces.mp (List.mem_of_getLast? h)).1
  · exact nomatch h

/-- Another place closes what it is paired with, and opens itself if it is an acquisition. -/
theorem openPlaces_succ (later : ∀ k ≤ j, partner k ≠ some j) :
    openPlaces log partner (j + 1) =
      (openPlaces log partner j).filter (partner j ≠ some ·) ++
        (if log[j]? = some .busEnter then [j] else []) := by
  have itself : ([j].filter fun i =>
      decide (log[i]? = some .busEnter ∧ ∀ k < j + 1, partner k ≠ some i)) =
      if log[j]? = some .busEnter then [j] else [] := by
    have unpaired : ∀ k < j + 1, partner k ≠ some j := fun k hk => later k (Nat.le_of_lt_succ hk)
    simp only [List.filter_cons, List.filter_nil, and_iff_left unpaired, decide_eq_true_iff]
  rw [openPlaces, openPlaces, List.range_succ, List.filter_append, itself, List.filter_filter]
  congr 1
  refine List.filter_congr fun i _ => ?_
  rw [← Bool.decide_and]
  refine decide_eq_decide.mpr ?_
  rw [Nat.forall_lt_succ_right, ← and_assoc, and_comm]

/-- Of a list without repetitions, all but the last is what differs from the last. -/
theorem filter_ne_getLast? {is : List Nat} (h : is.Nodup) :
    is.filter (is.getLast? ≠ some ·) = is.dropLast := by
  rcases List.eq_nil_or_concat is with rfl | ⟨before, last, rfl⟩
  · rfl
  · rw [List.concat_eq_append] at h ⊢
    obtain ⟨-, -, apart⟩ := List.nodup_append.mp h
    have differ : ∀ i ∈ before, decide (some last ≠ some i) = true := by
      intro i hi
      have hne : i ≠ last := apart i hi last (List.mem_singleton_self last)
      simpa using fun same : last = i => hne same.symm
    rw [List.getLast?_concat, List.dropLast_concat, List.filter_append,
      List.filter_eq_self.mpr differ]
    simp

/-! ## The stack -/

/-- **The stack at a place holds the open places before it**, if the releases before it are paired
with the nearest. -/
theorem reverse_openPlaces (hj : j ≤ log.length)
    (pairs : ∀ k < j, partner k = nearestOpen log partner k) :
    (openPlaces log partner j).reverse = unreleased (log.take j) := by
  induction j with
  | zero => rfl
  | succ j ih =>
    have hlt : j < log.length := hj
    have stack := ih (Nat.le_of_lt hlt) fun k hk => pairs k (Nat.lt_succ_of_lt hk)
    have later : ∀ k ≤ j, partner k ≠ some j := by
      intro k hk paired
      rw [pairs k (Nat.lt_succ_of_le hk)] at paired
      exact absurd (lt_of_nearestOpen paired) (Nat.not_lt.mpr hk)
    have here := pairs j (Nat.lt_succ_self j)
    rw [openPlaces_succ later, List.take_succ_eq_append_getElem hlt, unreleased_concat, ← stack,
      List.length_take_of_le (Nat.le_of_lt hlt), here, nearestOpen, List.getElem?_eq_getElem hlt]
    cases log[j] with
    | busEnter => simp [pair]
    | busExit =>
      -- the partner is the last open place, so closing it drops the top of the stack
      simp only [pair, ↓reduceIte, filter_ne_getLast? nodup_openPlaces]
      simp
    | write r v | delayUs us | pin n f | clockStart d | clockStop => simp [pair]

/-! ## The pairing -/

/-- The pairing that is read off the stack: a release takes its top. -/
def pairing (log : List Event) (j : Nat) : Option Nat :=
  if log[j]? = some .busExit then (unreleased (log.take j)).head? else none

theorem nearestOpen_eq (pairs : ∀ k < j, partner k = nearestOpen log partner k) :
    nearestOpen log partner j = pairing log j := by
  rw [nearestOpen, pairing]
  split
  · rename_i released
    obtain ⟨hj, -⟩ := List.getElem?_eq_some_iff.mp released
    rw [← List.head?_reverse, reverse_openPlaces (Nat.le_of_lt hj) pairs]
  · rfl

/-- **There is exactly one pairing.** -/
theorem pairs_iff : Pairs log partner ↔ partner = pairing log := by
  constructor
  · intro pairs
    funext j
    rw [pairs j, nearestOpen_eq fun k _ => pairs k]
  · rintro rfl j
    induction j using Nat.strongRecOn with
    | ind j before => exact (nearestOpen_eq before).symm

theorem existsUnique_pairs (log : List Event) : ∃! partner, Pairs log partner :=
  ⟨pairing log, pairs_iff.mpr rfl, fun _ => pairs_iff.mp⟩

/-- **As many acquisitions are left open as the stack holds.** -/
theorem length_openPlaces (pairs : Pairs log partner) :
    (openPlaces log partner log.length).length = (unreleased log).length := by
  rw [← List.length_reverse, reverse_openPlaces (Nat.le_refl _) fun k _ => pairs k,
    List.take_length]

/-! ## Counting in a word -/

/-- What an event does to a word that counts the guards. -/
def tally (held : UInt64) : Event → UInt64
  | .busEnter => Clock.addClamped held 1
  | .busExit => if held = 0 then 0 else held - 1
  | _ => held

/-- The guards that are held, as a machine word counts them. -/
def guardWord (log : List Event) : UInt64 := log.foldl tally 0

theorem toNat_tally_busEnter {held : UInt64} (h : held.toNat + 1 < UInt64.size) :
    (tally held .busEnter).toNat = held.toNat + 1 :=
  Clock.toNat_clampWord h

theorem toNat_tally_busExit {held : UInt64} :
    (tally held .busExit).toNat = held.toNat - 1 := by
  rw [tally]
  split
  · rename_i free
    rw [free]
    rfl
  · rename_i taken
    have positive : (1 : UInt64) ≤ held := by
      rw [UInt64.le_iff_toNat_le]
      exact Nat.pos_of_ne_zero fun zero => taken (UInt64.toNat_inj.mp zero)
    exact UInt64.toNat_sub_of_le _ _ positive

theorem length_unreleased_le (log : List Event) : (unreleased log).length ≤ log.length := by
  induction log using List.reverseRecOn with
  | nil => exact Nat.le_refl _
  | append_singleton log e ih =>
    rw [unreleased_concat, List.length_append, List.length_singleton]
    cases e with
    | busEnter => exact Nat.succ_le_succ ih
    | busExit =>
      rw [pair, List.length_tail]
      omega
    | write r v | delayUs us | pin n f | clockStart d | clockStop => exact Nat.le_succ_of_le ih

/-- **The word counts the guards that are held**, as long as there are fewer events than words. -/
theorem toNat_guardWord (h : log.length < UInt64.size) :
    (guardWord log).toNat = (unreleased log).length := by
  induction log using List.reverseRecOn with
  | nil => rfl
  | append_singleton log e ih =>
    rw [List.length_append, List.length_singleton] at h
    have counted := ih (Nat.lt_of_succ_lt h)
    have few := length_unreleased_le log
    rw [guardWord, List.foldl_append, ← guardWord, unreleased_concat]
    cases e with
    | busEnter =>
      show (tally (guardWord log) .busEnter).toNat = _
      rw [toNat_tally_busEnter (by omega), counted]
      rfl
    | busExit =>
      show (tally (guardWord log) .busExit).toNat = _
      rw [toNat_tally_busExit, counted, pair, List.length_tail]
    | write r v | delayUs us | pin n f | clockStart d | clockStop => exact counted

end Event

end SerialAudio
