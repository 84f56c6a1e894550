import SerialAudio.Proofs.Peripheral.Sessions
/-!
# The fields of the request levels

Lowering a level reads the whole word and writes it back, and every start does it again. So a word
that was lowered once is lowered once more, together with what lies beside the field, and nothing
may come of it.

A word is the same as what it holds in its two fields and in the rest; `eq_of_masks` says so of the
bits where they stand, and `eq_of_levels` of the levels that are read off them.
Lowering is described by what it does to these three parts, one of which is set while the other two
are kept. In which order the fields are lowered, and how often, drops out of that description by
itself.

## Main results

* `eq_of_masks`, `eq_of_levels` — a word by its parts
* `level_loweredLevels`, `loweredLevels_and_others` — what lowering several levels leaves
* `loweredLevels_eq_of_mem_iff` — lowering in another order, or again, makes no difference
-/

namespace SerialAudio

namespace Register

namespace RequestLevel

open Peripheral (loweredLevels)

variable {d e : Direction} {ds : List Direction} {w v : UInt32}

/-- The level of a direction in a word. -/
def level (d : Direction) (w : UInt32) : UInt32 := (w >>> shift d) &&& 0x7F

/-- The bits that belong to no level. -/
def others : UInt32 := ~~~(mask .transmit ||| mask .receive)

/-! ## Words by their parts -/

theorem or_and_distrib (a b m : UInt32) : (a ||| b) &&& m = a &&& m ||| b &&& m := by
  apply UInt32.eq_of_toBitVec_eq
  ext i
  simp [Bool.and_or_distrib_right]

/-- A level is read off the bits of its field. -/
theorem level_eq (d : Direction) (w : UInt32) : level d w = (w &&& mask d) >>> shift d := by
  have hm : mask d >>> shift d = 0x7F := by cases d <;> decide
  rw [UInt32.shiftRight_and, hm, level]

/-- **A word is its two fields and the rest.** -/
theorem eq_of_masks (fields : ∀ d, w &&& mask d = v &&& mask d)
    (rest : w &&& others = v &&& others) : w = v := by
  have parts : ∀ u : UInt32,
      u = (u &&& mask .transmit ||| u &&& mask .receive) ||| u &&& others := by
    intro u
    have all : mask .transmit ||| mask .receive ||| others = -1 := by decide
    rw [UInt32.and_comm u, UInt32.and_comm u, UInt32.and_comm u, ← or_and_distrib,
      ← or_and_distrib, all, UInt32.neg_one_and]
  rw [parts w, parts v, fields, fields, rest]

/-- Shifting a word down and up again loses nothing of the field that is shifted. -/
theorem shiftRight_shiftLeft_and_mask :
    (w >>> shift d) <<< shift d &&& mask d = w &&& mask d := by
  have bits : ∀ (n : Nat) (x y : BitVec 32), (x >>> n) <<< n &&& y <<< n = x &&& y <<< n := by
    intro n x y
    ext i hi
    by_cases below : i < n
    · simp [below]
    · have there : n + (i - n) = i := by omega
      simp [below, there, BitVec.getLsbD_eq_getElem hi]
  apply UInt32.eq_of_toBitVec_eq
  cases d with
  | transmit => exact bits 8 w.toBitVec 0x7F
  | receive => exact bits 0 w.toBitVec 0x7F

theorem and_mask_eq (d : Direction) (w : UInt32) : w &&& mask d = level d w <<< shift d := by
  rw [level, UInt32.shiftLeft_and, ← shiftRight_shiftLeft_and_mask]
  rfl

/-- **A word is its two levels and the rest.** -/
theorem eq_of_levels (levels : ∀ d, level d w = level d v) (rest : w &&& others = v &&& others) :
    w = v :=
  eq_of_masks (fun d => by rw [and_mask_eq, and_mask_eq, levels]) rest

/-! ## Lowering one level -/

theorem lower_and_mask_self : lower d w &&& mask d = place low (shift d) := by
  have set : place low (shift d) &&& mask d = place low (shift d) := by cases d <;> decide
  rw [lower, or_and_distrib, UInt32.and_assoc, UInt32.and_comm (~~~mask d), UInt32.and_not_self,
    UInt32.and_zero, UInt32.zero_or, set]

theorem lower_and_mask_of_ne (h : e ≠ d) : lower d w &&& mask e = w &&& mask e := by
  have kept : ~~~mask d &&& mask e = mask e := by
    cases d <;> cases e <;> first | decide | exact absurd rfl h
  have apart : place low (shift d) &&& mask e = 0 := by
    cases d <;> cases e <;> first | decide | exact absurd rfl h
  rw [lower, or_and_distrib, UInt32.and_assoc, kept, apart, UInt32.or_zero]

theorem lower_and_others : lower d w &&& others = w &&& others := by
  have kept : ~~~mask d &&& others = others := by cases d <;> decide
  have apart : place low (shift d) &&& others = 0 := by cases d <;> decide
  rw [lower, or_and_distrib, UInt32.and_assoc, kept, apart, UInt32.or_zero]

/-! ## Lowering several -/

theorem loweredLevels_and_mask : loweredLevels w ds &&& mask e =
    if e ∈ ds then place low (shift e) else w &&& mask e := by
  induction ds generalizing w with
  | nil => rfl
  | cons d ds ih =>
    rw [loweredLevels, List.foldl_cons, ← loweredLevels, ih]
    by_cases hds : e ∈ ds
    · rw [if_pos hds, if_pos (List.mem_cons_of_mem d hds)]
    · rw [if_neg hds]
      by_cases hd : e = d
      · subst hd
        rw [if_pos List.mem_cons_self, lower_and_mask_self]
      · rw [if_neg (List.not_mem_cons_of_ne_of_not_mem hd hds), lower_and_mask_of_ne hd]

theorem loweredLevels_and_others : loweredLevels w ds &&& others = w &&& others := by
  induction ds generalizing w with
  | nil => rfl
  | cons d ds ih => rw [loweredLevels, List.foldl_cons, ← loweredLevels, ih, lower_and_others]

/-- **The levels that are lowered are low, and the others are as they were.** -/
theorem level_loweredLevels :
    level e (loweredLevels w ds) = if e ∈ ds then low else level e w := by
  have hlow : place low (shift e) >>> shift e = low := by cases e <;> decide
  rw [level_eq, loweredLevels_and_mask, level_eq]
  split
  · exact hlow
  · rfl

/-- **Neither the order nor the number of times matters.** -/
theorem loweredLevels_eq_of_mem_iff {es : List Direction} (h : ∀ d, d ∈ ds ↔ d ∈ es) :
    loweredLevels w ds = loweredLevels w es := by
  refine eq_of_masks (fun d => ?_)
    (loweredLevels_and_others.trans loweredLevels_and_others.symm)
  rw [loweredLevels_and_mask, loweredLevels_and_mask]
  simp only [h]

/-- **Lowering twice is lowering once.** -/
theorem loweredLevels_loweredLevels :
    loweredLevels (loweredLevels w ds) ds = loweredLevels w ds := by
  have twice : loweredLevels w (ds ++ ds) = loweredLevels (loweredLevels w ds) ds :=
    List.foldl_append
  rw [← twice]
  exact loweredLevels_eq_of_mem_iff fun d => by rw [List.mem_append, or_self]

end RequestLevel

end Register

end SerialAudio
