import Mathlib.Data.List.TakeWhile
import Mathlib.Data.Set.Function
import SerialAudio.Proofs.Codec.Trials
/-!
# Control words read back

A codec with registers of nine bits cannot be read, so nothing on the bus ever says whether it took
what was meant. What it did take is decided by the two bytes alone, and `ControlWord.decode` reads
them its way: seven bits, and then nine, of which the first shares a byte with the seven.

The boundary of the fields and the boundary of the bytes do not coincide, and that is all there is
to the difficulty. It disappears when the two bytes are taken as one number: writing a control word
makes that number from a quotient and a remainder by 512, reading one takes them apart again, and
neither has to know where the bytes end. What is too wide is lost by the same remainder, whether it
was shifted out of the word or masked away.

A table is sent word by word down to the first that fails, so what the codec hears is a table that
was cut off somewhere. It is cut between two words and never inside one.

## Main results

* `number_packed`, `toNat_register`, `toNat_value` — the two forms, as one number
* `decode_packed`, `packed_decode` — each form from the other
* `heard_sending` — a table is heard as it was meant
* `settings_decoded` — what a codec hears of its table, over every bus
-/

namespace SerialAudio

namespace ControlWord

variable {w v : ControlWord} {register : UInt8} {value : UInt16}

/-! ## Two bytes as one number -/

/-- The number that two bytes stand for, upper byte first. -/
def number (w : ControlWord) : Nat := w.high.toNat * 256 + w.low.toNat

theorem eq_of_number (h : w.number = v.number) : w = v := by
  have hw := w.low.toNat_lt
  have hv := v.low.toNat_lt
  simp only [number] at h
  have high : w.high = v.high := UInt8.toNat_inj.mp (by omega)
  have low : w.low = v.low := UInt8.toNat_inj.mp (by omega)
  cases w
  cases v
  exact congrArg₂ ControlWord.mk high low

theorem number_ofWord (n : UInt16) : (ofWord n).number = n.toNat := by
  have hn := n.toNat_lt
  have upper : (n >>> 8).toUInt8.toNat = n.toNat / 256 % 256 := by
    simp [Nat.shiftRight_eq_div_pow]
  have lower : n.toUInt8.toNat = n.toNat % 256 := by simp
  simp only [number, ofWord, upper, lower]
  omega

/-! ## Writing -/

/-- The register is shifted out of the word where the value is masked. -/
theorem toNat_packedWord :
    (packedWord register value).toNat = register.toNat % 128 * 512 + value.toNat % 512 := by
  have hr := register.toNat_lt
  have upper : (register.toUInt16 <<< 9).toNat = (register.toNat % 128) <<< 9 := by
    simp [Nat.shiftLeft_eq]
    omega
  have lower : (value &&& greatestValue).toNat = value.toNat % 512 := by
    rw [UInt16.toNat_and]
    exact Nat.and_two_pow_sub_one_eq_mod value.toNat 9
  rw [packedWord, UInt16.toNat_or, upper, lower,
    ← Nat.shiftLeft_add_eq_or_of_lt (Nat.mod_lt _ (by decide)), Nat.shiftLeft_eq]

/-- **A control word is a quotient and a remainder.** -/
theorem number_packed :
    (packed register value).number = register.toNat % 128 * 512 + value.toNat % 512 := by
  rw [packed, number_ofWord, toNat_packedWord]

/-! ## Reading -/

theorem toNat_register (w : ControlWord) : (decode w).1.toNat = w.number / 512 := by
  have hl := w.low.toNat_lt
  have shifted : (w.high >>> 1).toNat = w.high.toNat / 2 := by
    simp [Nat.shiftRight_eq_div_pow]
  rw [decode, shifted, number]
  omega

theorem toNat_value (w : ControlWord) : (decode w).2.toNat = w.number % 512 := by
  have hl := w.low.toNat_lt
  have top : (w.high &&& 1).toUInt16.toNat = w.high.toNat % 2 := by
    rw [UInt8.toNat_toUInt16, UInt8.toNat_and]
    exact Nat.and_one_is_mod _
  have weight : (256 : UInt16).toNat = 256 := rfl
  rw [decode, UInt16.toNat_add, UInt16.toNat_mul, top, weight, UInt8.toNat_toUInt16, number]
  omega

/-- Nothing that is read is too wide to be written. -/
theorem decode_narrow (w : ControlWord) : (decode w).1 < 128 ∧ (decode w).2 < 512 := by
  have hh := w.high.toNat_lt
  have hl := w.low.toNat_lt
  constructor
  · rw [UInt8.lt_iff_toNat_lt, toNat_register, number]
    show _ < 128
    omega
  · rw [UInt16.lt_iff_toNat_lt, toNat_value]
    exact Nat.mod_lt _ (by decide)

/-! ## Both ways -/

/-- **What is read is what was written, less what is too wide.** -/
theorem decode_packed : decode (packed register value) = (register % 128, value % 512) := by
  have hv : value.toNat % 512 < 512 := Nat.mod_lt _ (by decide)
  refine Prod.ext (UInt8.toNat_inj.mp ?_) (UInt16.toNat_inj.mp ?_)
  · rw [toNat_register, number_packed, UInt8.toNat_mod]
    show _ = _ % 128
    omega
  · rw [toNat_value, number_packed, UInt16.toNat_mod]
    show _ = _ % 512
    omega

/-- **Any two bytes are what their reading is written as.** -/
theorem packed_decode (w : ControlWord) : packed (decode w).1 (decode w).2 = w := by
  have hh := w.high.toNat_lt
  have hl := w.low.toNat_lt
  refine eq_of_number ?_
  rw [number_packed, toNat_register, toNat_value, number]
  omega

theorem decode_packed_of_narrow (hr : register < 128) (hv : value < 512) :
    decode (packed register value) = (register, value) := by
  rw [decode_packed]
  refine Prod.ext (UInt8.toNat_inj.mp ?_) (UInt16.toNat_inj.mp ?_)
  · exact Nat.mod_eq_of_lt (UInt8.lt_iff_toNat_lt.mp hr)
  · exact Nat.mod_eq_of_lt (UInt16.lt_iff_toNat_lt.mp hv)

end ControlWord

namespace Codec

variable {ε : Type} {b : ControlBus ε} {address : UInt8} {family : Family}

/-! ## What succeeds -/

/-- The transactions of a table that succeed are those before the first that fails. -/
theorem filter_sent : ((trial b address family).sent.filter (·.failure.isNone)) =
    (b.sending address family.table).takeWhile (·.failure.isNone) := by
  have taken : (fun x : Transaction ε => x.failure.isNone) = (!Transaction.failed ·) := by
    funext x
    rw [Transaction.failed, Option.not_isSome]
  rw [taken, trial, filter_upTo]

theorem address_of_mem_sent {x : Transaction ε} (h : x ∈ (trial b address family).sent) :
    x.address = address := by
  rw [trial] at h
  obtain ⟨i, hi, rfl⟩ := List.mem_mapIdx.mp (List.mem_of_mem_take h)
  rfl

theorem configure_eq_ok_iff : (configure b family address).1 = .ok () ↔
    (b.sending address family.table).takeWhile (·.failure.isNone) =
      b.sending address family.table := by
  rw [configure_eq]
  dsimp only
  rw [outcomeOf_eq_ok_iff, cause_trial, List.findSome?_eq_none_iff, List.takeWhile_eq_self_iff]
  simp only [Option.isNone_iff_eq_none]

/-- What a part of a list is read as is a part of what the list is read as. -/
theorem exists_prefix_of_map_eq {α β : Type} {f : α → Option β} {xs before : List α} {ys : List β}
    (h : xs.map f = ys.map some) (cut : before <+: xs) :
    ∃ taken, taken <+: ys ∧ before.map f = taken.map some ∧ (before = xs ↔ taken = ys) := by
  have length : xs.length = ys.length := by
    simpa only [List.length_map] using congrArg List.length h
  have take : before = xs.take before.length := List.prefix_iff_eq_take.mp cut
  have read : before.map f = (ys.take before.length).map some := by
    rw [List.map_take, ← h, ← List.map_take, ← take]
  refine ⟨ys.take before.length, List.take_prefix _ _, read, ?_, ?_⟩
  · intro whole
    rw [whole, length, List.take_length]
  · intro whole
    refine cut.eq_of_length ?_
    rw [length, ← List.length_map (f := f), read, whole, List.length_map]

namespace Wm8960

/-! ## What the codec hears -/

/-- The setting that the codec takes from a transaction. It knows no transaction but one that sends
two bytes. -/
def heard (x : Transaction ε) : Option (Setting UInt16) :=
  match x.operations with
  | [.write [high, low]] =>
    some ⟨(ControlWord.decode ⟨high, low⟩).1, (ControlWord.decode ⟨high, low⟩).2⟩
  | _ => none

/-- Every setting of the table fits its fields. -/
theorem settings_narrow : ∀ s ∈ settings, s.register < 128 ∧ s.value < 512 := by decide

/-- **A table is heard as it was meant**, whatever the bus says to its words. -/
theorem heard_sending :
    (b.sending address Family.wm8960.table).map heard = settings.map some := by
  have word : ∀ s ∈ settings, ∀ failure : Option ε,
      heard ⟨address, [.write (encode s).bytes], failure⟩ = some s := by
    intro s hs failure
    obtain ⟨hr, hv⟩ := settings_narrow s hs
    have read : ControlWord.decode (encode s) = (s.register, s.value) :=
      ControlWord.decode_packed_of_narrow hr hv
    show some (Setting.mk (ControlWord.decode (encode s)).1 (ControlWord.decode (encode s)).2) = _
    rw [read]
  rw [ControlBus.sending, Family.table]
  refine List.ext_getElem ?_ fun i hi hi' => ?_
  · simp
  · simp only [List.getElem_map, List.getElem_mapIdx]
    exact word _ (List.getElem_mem _) _

/-- **What is heard is a table that was cut off**, and nothing was cut off if it was written. -/
theorem exists_heard (b : ControlBus ε) (address : UInt8) : ∃ taken, taken <+: settings ∧
    ((trial b address .wm8960).sent.filter (·.failure.isNone)).map heard = taken.map some ∧
    ((configure b .wm8960 address).1 = .ok () ↔ taken = settings) := by
  rw [filter_sent, configure_eq_ok_iff]
  exact exists_prefix_of_map_eq heard_sending (List.takeWhile_prefix _)

/-- **Control words decode to what was encoded.** Two bytes that were written from a register and a
value are read as the register without its top bit and the value without its bits above the ninth,
and any two bytes at all are written from what is read in them; so writing and reading undo each
other where nothing is too wide. Over every bus and at every address, what a codec reads in the
words that it was sent and that succeeded is a table that was cut off at some place, and it is the
whole table exactly if writing the table succeeds. -/
theorem settings_decoded :
    (∀ register value, ControlWord.decode (.packed register value) =
        (register % 128, value % 512)) ∧
      (∀ w, ControlWord.packed (ControlWord.decode w).1 (ControlWord.decode w).2 = w) ∧
      (let narrow : Set (UInt8 × UInt16) := {s | s.1 < 128 ∧ s.2 < 512}
        let write := fun s : UInt8 × UInt16 => ControlWord.packed s.1 s.2
        Set.InvOn ControlWord.decode write narrow Set.univ ∧
          Set.BijOn write narrow Set.univ ∧ Set.BijOn ControlWord.decode Set.univ narrow) ∧
      ∀ {ε : Type} (b : ControlBus ε) (address : UInt8), ∃ sent taken,
        (configure b .wm8960 address).2.record = b.record ++ sent ∧
          (∀ x ∈ sent, x.address = address) ∧
          (sent.filter (·.failure.isNone)).map heard = taken.map some ∧
          taken <+: settings ∧
          ((configure b .wm8960 address).1 = .ok () ↔ taken = settings) := by
  refine ⟨fun _ _ => ControlWord.decode_packed, ControlWord.packed_decode, ?_, ?_⟩
  · intro narrow write
    have inverse : Set.InvOn ControlWord.decode write narrow Set.univ :=
      ⟨fun s hs => ControlWord.decode_packed_of_narrow hs.1 hs.2,
        fun w _ => ControlWord.packed_decode w⟩
    have into : Set.MapsTo write narrow Set.univ := Set.mapsTo_univ _ _
    have back : Set.MapsTo ControlWord.decode Set.univ narrow :=
      fun w _ => ControlWord.decode_narrow w
    exact ⟨inverse, inverse.bijOn into back, inverse.symm.bijOn back into⟩
  · intro ε b address
    obtain ⟨taken, cut, heard_taken, whole⟩ := exists_heard b address
    refine ⟨(trial b address .wm8960).sent, taken, ?_, fun x => address_of_mem_sent,
      heard_taken, cut, whole⟩
    rw [configure_eq]
    rfl

/-- The second word is refused, so the codec hears the reset and nothing else. -/
example :
    let b := FaultPlan.bus { scripted := [(1, .dataNotAcknowledged)] }
    ((configure b .wm8960 0x1A).2.record.filter (·.failure.isNone)).map heard =
      [some ⟨15, 0⟩] := by decide

end Wm8960

end Codec

end SerialAudio
