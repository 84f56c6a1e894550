import SerialAudio.Proofs.Register.Levels
/-!
# Arming and enabling in any order

A start arms the block once and then lets it run once. Nothing about the two sequences asks for
that: a block may be armed for one mode and again for another, or be let run before it is armed, and
a start that is refused a lane leaves a block armed that the next start arms again.

What comes of such calls is known from *which* of them were made. Each of them adds bits to the
control register or lowers levels, every level is lowered to the same number, and none of them takes
back what another one did. So the registers are those that were found, with two words replaced:
`registers_afterCalls` computes both from the calls, and neither depends on how often a call was
made or on when.

Words with bits are joined by `union`, which is the disjunction of a list. That it forgets order and
repetition is a fact about lists of words and not about the block.

## Main results

* `union_eq_of_mem_iff` — a union is known from its members
* `registers_afterCalls` — the registers after calls
* `registers_of_calls` — the same field by field, for calls in any order
-/

namespace SerialAudio

namespace Register

/-! ## Unions of words -/

/-- The bits that are set in some word of a list. -/
def union (ws : List UInt32) : UInt32 := ws.foldr (· ||| ·) 0

variable {w : UInt32} {ws vs : List UInt32}

@[simp] theorem union_nil : union [] = 0 := rfl

@[simp] theorem union_cons : union (w :: ws) = w ||| union ws := rfl

theorem or_left_comm (a b c : UInt32) : a ||| (b ||| c) = b ||| (a ||| c) := by
  rw [← UInt32.or_assoc, UInt32.or_comm a b, UInt32.or_assoc]

/-- A member adds nothing to a union. -/
theorem or_union_of_mem (h : w ∈ ws) : w ||| union ws = union ws := by
  induction ws with
  | nil => exact absurd h List.not_mem_nil
  | cons v ws ih =>
    rw [union_cons]
    rcases List.mem_cons.mp h with rfl | later
    · rw [← UInt32.or_assoc, UInt32.or_self]
    · rw [or_left_comm, ih later]

theorem union_or_union_of_subset (h : ws ⊆ vs) : union ws ||| union vs = union vs := by
  induction ws with
  | nil => exact UInt32.zero_or
  | cons w ws ih =>
    obtain ⟨first, rest⟩ := List.cons_subset.mp h
    rw [union_cons, UInt32.or_assoc, ih rest, or_union_of_mem first]

/-- **A union is known from its members.** -/
theorem union_eq_of_mem_iff (h : ∀ w, w ∈ ws ↔ w ∈ vs) : union ws = union vs := by
  have into : union ws ||| union vs = union vs := union_or_union_of_subset fun w => (h w).mp
  have back : union vs ||| union ws = union ws := union_or_union_of_subset fun w => (h w).mpr
  rw [← back, UInt32.or_comm, into]

end Register

namespace Peripheral

open Register

/-! ## Calls -/

/-- One of the two sequences that a start is made of. -/
inductive Call where
  /-- Let the block ask for transfers. -/
  | arm (m : Mode) (c : Chunk)
  /-- Let every direction of a mode run. -/
  | enable (m : Mode)
deriving DecidableEq

namespace Call

/-- Make a call. -/
def perform : Call → Peripheral → Peripheral
  | .arm m c, p => p.armDma m c
  | .enable m, p => p.enable m

/-- Whether a call arms the block. -/
def arms : Call → Bool
  | .arm _ _ => true
  | .enable _ => false

/-- The mode that a call lets run. -/
def enabled? : Call → Option Mode
  | .arm _ _ => none
  | .enable m => some m

/-- The bits of the control register that a call sets. -/
def bits : Call → UInt32
  | .arm _ _ => ControlStatus.dmaEnable
  | .enable m => ControlStatus.enableBits m

/-- Whether a call lowers the level of a direction. -/
def lowers (d : Direction) : Call → Bool
  | .arm m c => decide (c.slots < 64) && m.uses d
  | .enable _ => false

/-- The directions whose levels a call lowers, in turn. -/
def lowered : Call → List Direction
  | .arm m c => shortDirections m c
  | .enable _ => []

end Call

/-- The peripheral after calls. -/
def afterCalls (p : Peripheral) (calls : List Call) : Peripheral :=
  calls.foldl (fun p c => c.perform p) p

variable {p : Peripheral} {c : Call} {calls : List Call} {d : Direction}

@[simp] theorem afterCalls_nil : p.afterCalls [] = p := rfl

@[simp] theorem afterCalls_cons : p.afterCalls (c :: calls) = (c.perform p).afterCalls calls := rfl

/-! ## The registers after calls -/

/-- The registers with bits added to the control register and levels lowered. -/
def raised (f : RegisterFile) (bits : UInt32) (ds : List Direction) : RegisterFile where
  controlStatus := f.controlStatus ||| bits
  mode := f.mode
  rxConfig := f.rxConfig
  txConfig := f.txConfig
  dmaRequest := loweredLevels f.dmaRequest ds

theorem raised_raised {f : RegisterFile} {bits more : UInt32} {ds es : List Direction} :
    raised (raised f bits ds) more es = raised f (bits ||| more) (ds ++ es) := by
  simp only [raised, loweredLevels, List.foldl_append, UInt32.or_assoc]

theorem registers_perform : (c.perform p).registers = raised p.registers c.bits c.lowered := by
  cases c with
  | arm m c => exact registers_armDma
  | enable m => exact registers_enable

/-- **Calls add their bits and lower their levels.** -/
theorem registers_afterCalls : (p.afterCalls calls).registers =
    raised p.registers (union (calls.map Call.bits)) (calls.flatMap Call.lowered) := by
  induction calls generalizing p with
  | nil =>
    show _ = raised p.registers 0 []
    rw [raised, UInt32.or_zero]
    rfl
  | cons c calls ih =>
    rw [afterCalls_cons, ih, registers_perform, raised_raised, List.map_cons, union_cons,
      List.flatMap_cons]

/-! ## What is in the two words -/

/-- The bits of calls are the permission to ask for transfers and the bits of the modes. -/
theorem union_bits : union (calls.map Call.bits) =
    (if calls.any Call.arms then ControlStatus.dmaEnable else 0)
      ||| union ((calls.filterMap Call.enabled?).map ControlStatus.enableBits) := by
  induction calls with
  | nil => rfl
  | cons c calls ih =>
    rw [List.map_cons, union_cons, ih]
    cases c with
    | arm m c =>
      -- arming twice is arming once
      rw [← UInt32.or_assoc]
      show _ = ControlStatus.dmaEnable |||
        union ((calls.filterMap Call.enabled?).map ControlStatus.enableBits)
      refine congrArg (· ||| _) ?_
      show ControlStatus.dmaEnable ||| _ = ControlStatus.dmaEnable
      split
      · exact UInt32.or_self
      · exact UInt32.or_zero
    | enable m => exact or_left_comm ..

theorem mem_lowered_iff : d ∈ c.lowered ↔ c.lowers d = true := by
  cases c with
  | arm m c => exact mem_shortDirections
  | enable m => exact iff_of_false List.not_mem_nil Bool.false_ne_true

theorem mem_flatMap_lowered :
    d ∈ calls.flatMap Call.lowered ↔ calls.any (Call.lowers d) = true := by
  simp only [List.mem_flatMap, List.any_eq_true, mem_lowered_iff]

/-- **Which calls were made is all that counts.** -/
theorem registers_afterCalls_of_mem_iff {again : List Call} (h : ∀ c, c ∈ again ↔ c ∈ calls) :
    (p.afterCalls again).registers = (p.afterCalls calls).registers := by
  have bits : union (again.map Call.bits) = union (calls.map Call.bits) := by
    refine union_eq_of_mem_iff fun w => ?_
    simp only [List.mem_map, h]
  have levels : loweredLevels p.registers.dmaRequest (again.flatMap Call.lowered) =
      loweredLevels p.registers.dmaRequest (calls.flatMap Call.lowered) := by
    refine RequestLevel.loweredLevels_eq_of_mem_iff fun d => ?_
    simp only [List.mem_flatMap, h]
  rw [registers_afterCalls, registers_afterCalls, raised, raised, bits, levels]

/-- **What arming and enabling leave in the registers, whatever is called and in whatever order.**
The control register holds what was found in it, the permission to ask for transfers if the block
was armed at all, and the bits of every mode that was let run. The level of a direction is the
lowered one if the block was armed with a short chunk for a mode that carries the direction, and the
level that was found otherwise. Nothing else changes, and any other calls that are the same apart
from order and repetition leave the same. -/
theorem registers_of_calls (p : Peripheral) (calls : List Call) :
    let found := p.registers
    let left := (p.afterCalls calls).registers
    left.controlStatus = found.controlStatus
        ||| (if calls.any Call.arms then ControlStatus.dmaEnable else 0)
        ||| union ((calls.filterMap Call.enabled?).map ControlStatus.enableBits) ∧
      (∀ d, RequestLevel.level d left.dmaRequest = if calls.any (Call.lowers d) then 0x18
        else RequestLevel.level d found.dmaRequest) ∧
      left.dmaRequest &&& RequestLevel.others = found.dmaRequest &&& RequestLevel.others ∧
      left.mode = found.mode ∧ left.txConfig = found.txConfig ∧ left.rxConfig = found.rxConfig ∧
      ∀ again : List Call, (∀ c, c ∈ again ↔ c ∈ calls) →
        (p.afterCalls again).registers = left := by
  intro found left
  have known : left = raised found (union (calls.map Call.bits)) (calls.flatMap Call.lowered) :=
    registers_afterCalls
  have control : left.controlStatus = found.controlStatus ||| union (calls.map Call.bits) := by
    rw [known]
    rfl
  have levels : left.dmaRequest =
      loweredLevels found.dmaRequest (calls.flatMap Call.lowered) := by
    rw [known]
    rfl
  refine ⟨?_, fun d => ?_, ?_, ?_, ?_, ?_, fun again => registers_afterCalls_of_mem_iff⟩
  · rw [control, union_bits, UInt32.or_assoc]
  · rw [levels, RequestLevel.level_loweredLevels]
    simp only [mem_flatMap_lowered]
    rfl
  · rw [levels, RequestLevel.loweredLevels_and_others]
  · rw [known]
    rfl
  · rw [known]
    rfl
  · rw [known]
    rfl

/-- A block that nobody reset plays, is armed for short captures and captures, and then all of it is
done once more, backwards. -/
theorem registers_of_calls_backwards :
    let p : Peripheral := { registers := { controlStatus := 0x80000001, dmaRequest := 0x10203030 } }
    let calls : List Call :=
      [.enable .playback, .arm .capture ⟨32, by decide, by decide⟩, .enable .capture]
    (∀ c, c ∈ calls ++ calls.reverse ↔ c ∈ calls) ∧
      (p.afterCalls calls).registers.controlStatus = 0x80800207 ∧
      (∀ d, RequestLevel.level d (p.afterCalls calls).registers.dmaRequest =
        if d = .receive then 0x18 else 0x30) ∧
      (p.afterCalls (calls ++ calls.reverse)).registers = (p.afterCalls calls).registers := by
  intro p calls
  have same : ∀ c, c ∈ calls ++ calls.reverse ↔ c ∈ calls := by
    intro c
    rw [List.mem_append, List.mem_reverse, or_self]
  obtain ⟨control, levels, -, -, -, -, again⟩ := registers_of_calls p calls
  refine ⟨same, control.trans (by decide), fun d => (levels d).trans ?_, again _ same⟩
  cases d <;> decide

end Peripheral

end SerialAudio
