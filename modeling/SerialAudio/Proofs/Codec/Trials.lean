import SerialAudio.Codec.Setup
import SerialAudio.Proofs.Cut
/-!
# Trials

To try a place is to send the table of its family until a word fails. To probe is to try places
until one takes its whole table. Both cut a sequence off behind the first element that decides it,
and `upTo` is that cut.

What is cut off is described apart from the cutting. `ControlBus.sending` is the whole table with
what the bus would say to each word, numbered on from what happened on the bus before, and
`Codec.trials` is every place in turn, as if none of them settled the matter. A bus may answer by
number, so it does matter where a trial begins: it begins where the cut that was made before it
ended, and not where a whole table would have.

## Main results

* `configure_eq` — a trial sends its table up to the first failure, and reports that failure
* `probe_eq` — probing makes the trials up to the first that succeeds, and reports that place
* `setUp_eq_trials` — bringing a codec up, over every bus
-/

namespace SerialAudio

variable {ε : Type}

/-! ## Sending a table -/

namespace ControlBus

variable {b : ControlBus ε} {address : UInt8} {w : ControlWord} {ws : List ControlWord}

/-- The bus after more happened on it. -/
def add (b : ControlBus ε) (more : List (Transaction ε)) : ControlBus ε :=
  { b with record := b.record ++ more }

@[simp] theorem add_nil : b.add [] = b := by rw [add, List.append_nil]

@[simp] theorem add_add {more evenMore : List (Transaction ε)} :
    (b.add more).add evenMore = b.add (more ++ evenMore) := by
  rw [add, add, add, List.append_assoc]

/-- Control words sent in turn in transactions of their own, with what the bus says to each of them
if none is left out. -/
def sending (b : ControlBus ε) (address : UInt8) (ws : List ControlWord) : List (Transaction ε) :=
  ws.mapIdx fun i w =>
    ⟨address, [.write w.bytes], b.behaviour (b.record.length + i) address [.write w.bytes]⟩

/-- The transaction that sends a control word next. -/
def sendingNext (b : ControlBus ε) (address : UInt8) (w : ControlWord) : Transaction ε :=
  ⟨address, [.write w.bytes], b.behaviour b.record.length address [.write w.bytes]⟩

theorem write_eq : b.write address w.bytes =
    (outcomeOf (b.sendingNext address w).failure, b.add [b.sendingNext address w]) := rfl

/-- The record is one longer for the others, and their indices are one smaller. -/
theorem sending_cons : b.sending address (w :: ws) =
    b.sendingNext address w :: (b.add [b.sendingNext address w]).sending address ws := by
  have later : ∀ i, b.record.length + (i + 1) =
      (b.add [b.sendingNext address w]).record.length + i := by
    intro i
    rw [add, List.length_append, List.length_singleton]
    omega
  rw [sending, List.mapIdx_cons]
  simp only [later]
  rfl

end ControlBus

/-- Whether a transaction failed. -/
def Transaction.failed (x : Transaction ε) : Bool := x.failure.isSome

namespace Codec

variable {b : ControlBus ε} {address : UInt8} {family : Family} {places : List (UInt8 × Family)}

/-- **Words are sent up to the first that fails, and its failure is the answer.** -/
theorem writeAll_eq {ws : List ControlWord} : writeAll b address ws =
    (outcomeOf ((b.sending address ws).findSome? Transaction.failure),
      b.add (upTo Transaction.failed (b.sending address ws))) := by
  induction ws generalizing b with
  | nil =>
    rw [writeAll]
    exact congrArg (Prod.mk _) b.add_nil.symm
  | cons w ws ih =>
    rw [writeAll, ControlBus.write_eq, ControlBus.sending_cons, List.findSome?_cons]
    cases hf : (b.sendingNext address w).failure with
    | none =>
      have taken : (b.sendingNext address w).failed = false := by rw [Transaction.failed, hf]; rfl
      rw [upTo_cons_of_neg taken]
      dsimp only [outcomeOf]
      rw [ih, ControlBus.add_add]
      rfl
    | some e =>
      have refused : (b.sendingNext address w).failed = true := by rw [Transaction.failed, hf]; rfl
      rw [upTo_cons_of_pos refused]
      rfl

/-! ## Trying a place -/

/-- A place that was tried. -/
structure Trial (ε : Type) where
  /-- The address of the place. -/
  address : UInt8
  /-- The family whose table was sent. -/
  family : Family
  /-- What was sent, with the answers. -/
  sent : List (Transaction ε)

/-- The failure that ended a trial, if one did. -/
def Trial.cause (t : Trial ε) : Option ε := t.sent.findSome? Transaction.failure

/-- Whether the whole table was taken. -/
def Trial.accepted (t : Trial ε) : Bool := t.cause.isNone

/-- A place is tried by sending the table down to the first word that fails. -/
def trial (b : ControlBus ε) (address : UInt8) (family : Family) : Trial ε where
  address := address
  family := family
  sent := upTo Transaction.failed (b.sending address family.table)

/-- Places that are tried in turn, each of them where the trial before it ended, and none of them
left out. -/
def trials (b : ControlBus ε) : List (UInt8 × Family) → List (Trial ε)
  | [] => []
  | (address, family) :: rest =>
    trial b address family :: trials (b.add (trial b address family).sent) rest

theorem cause_trial : (trial b address family).cause =
    (b.sending address family.table).findSome? Transaction.failure :=
  findSome?_upTo fun _ => rfl

/-- **A trial sends its table up to the first failure, and reports that failure.** -/
theorem configure_eq : configure b family address =
    (outcomeOf (trial b address family).cause, b.add (trial b address family).sent) := by
  rw [configure, writeAll_eq, cause_trial]
  rfl

/-- **Probing makes the trials up to the first that succeeds, and reports its place.** -/
theorem probe_eq : probe b places =
    (match (trials b places).find? Trial.accepted with
      | some t => .configured t.family t.address
      | none => .absent,
      b.add ((upTo Trial.accepted (trials b places)).flatMap Trial.sent)) := by
  induction places generalizing b with
  | nil => exact congrArg (Prod.mk _) b.add_nil.symm
  | cons place rest ih =>
    obtain ⟨address, family⟩ := place
    rw [probe, configure_eq, trials, List.find?_cons]
    cases hc : (trial b address family).cause with
    | none =>
      have accepted : (trial b address family).accepted = true := by rw [Trial.accepted, hc]; rfl
      rw [accepted, upTo_cons_of_pos accepted, List.flatMap_singleton]
      rfl
    | some e =>
      have refused : (trial b address family).accepted = false := by rw [Trial.accepted, hc]; rfl
      rw [refused, upTo_cons_of_neg refused, List.flatMap_cons, ← ControlBus.add_add]
      exact ih

/-- The second word is refused at the first place, and the next place gets the whole table. -/
example :
    let b := FaultPlan.bus { scripted := [(1, .overrun)] }
    (probe b probeChain).2.record.map (·.address) = [0x4C, 0x4C, 0x4D, 0x4D, 0x4D] := by decide

/-! ## Bringing a codec up -/

/-- The place is fixed, so that its trial decides. -/
theorem setUp_fixed_eq : setUp b (.fixed address) =
    (match (trial b address (Family.atAddress address)).cause with
      | none => .ok (.configured (Family.atAddress address) address)
      | some e => .error ⟨Family.atAddress address, address, e⟩,
      b.add (trial b address (Family.atAddress address)).sent) := by
  rw [setUp, configure_eq]
  cases (trial b address (Family.atAddress address)).cause with
  | none => rfl
  | some e => rfl

theorem setUp_fixed_eq_ok_iff :
    (setUp b (.fixed address)).1 = .ok (.configured (Family.atAddress address) address) ↔
      ∀ x ∈ b.sending address (Family.atAddress address).table, x.failure = none := by
  rw [setUp_fixed_eq, ← List.findSome?_eq_none_iff, ← cause_trial]
  cases (trial b address (Family.atAddress address)).cause with
  | none => exact ⟨fun _ => rfl, fun _ => rfl⟩
  | some e => exact ⟨nofun, nofun⟩

theorem Trial.not_accepted_iff {t : Trial ε} :
    ¬t.accepted = true ↔ ∃ x ∈ t.sent, x.failure ≠ none := by
  rw [accepted, Option.isNone_iff_eq_none, cause, List.findSome?_eq_none_iff]
  simp only [Classical.not_forall, exists_prop]

/-- Every known place may be tried. -/
theorem setUp_probe_eq : setUp b .probe =
    (.ok (match (trials b probeChain).find? Trial.accepted with
      | some t => .configured t.family t.address
      | none => .absent),
      b.add ((upTo Trial.accepted (trials b probeChain)).flatMap Trial.sent)) := by
  rw [setUp, probe_eq]

theorem setUp_probe_eq_absent_iff : (setUp b .probe).1 = .ok .absent ↔
    ∀ t ∈ trials b probeChain, ∃ x ∈ t.sent, x.failure ≠ none := by
  simp only [← Trial.not_accepted_iff, ← List.find?_eq_none]
  rw [setUp_probe_eq]
  cases (trials b probeChain).find? Trial.accepted with
  | none => exact ⟨fun _ => rfl, fun _ => rfl⟩
  | some t => exact ⟨nofun, nofun⟩

/-- **Bringing a codec up, over every bus.** At a fixed address the table of its family is sent down
to the first word that fails, the failure of that word is the answer, and without one the codec is
configured. Otherwise the three places are tried in turn, each with its table down to the first word
that fails, down to the first that takes its whole table; that place is configured, and if there is
none the codec is absent, which is no failure. -/
theorem setUp_eq_trials (b : ControlBus ε) :
    (∀ a, let t := trial b a (Family.atAddress a)
      setUp b (.fixed a) =
          (match t.cause with
            | none => .ok (.configured t.family a)
            | some e => .error ⟨t.family, a, e⟩,
            b.add t.sent) ∧
        ((setUp b (.fixed a)).1 = .ok (.configured (Family.atAddress a) a) ↔
          ∀ x ∈ b.sending a (Family.atAddress a).table, x.failure = none)) ∧
      let ts := trials b [(0x4C, .pcm51xx), (0x4D, .pcm51xx), (0x1A, .wm8960)]
      setUp b .probe =
          (.ok (match ts.find? Trial.accepted with
            | some t => .configured t.family t.address
            | none => .absent),
            b.add ((upTo Trial.accepted ts).flatMap Trial.sent)) ∧
        ((setUp b .probe).1 = .ok .absent ↔ ∀ t ∈ ts, ∃ x ∈ t.sent, x.failure ≠ none) := by
  refine ⟨fun a => ⟨setUp_fixed_eq, setUp_fixed_eq_ok_iff⟩, ?_⟩
  exact ⟨setUp_probe_eq, setUp_probe_eq_absent_iff⟩

end Codec

end SerialAudio
