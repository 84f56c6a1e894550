import SerialAudio.Engine.Config
import SerialAudio.Peripheral.Replay
import SerialAudio.Proofs.Peripheral.Sessions
/-!
# The discipline of a log

The block can be damaged by doing the right things in the wrong order: driving pins that are not
routed, formatting a frame while it is clocked, stopping the clock under a block that runs. What is
allowed is said here about one event and all that came before it, so that it can be asked of every
prefix of a log.

`Bracketed` is about the bus guard alone. `Ordered` is about everything else, and the words that
`LastControl` picks out of the past are what it turns on. That the guard is kept follows from the
shape of a session. That the order is kept needs a reason for each sequence, and the reasons meet in
`Ready`: bringing the block up makes it true, the sessions of a start need it and do not spoil it,
and shutting down does not need it any more.

## Main results

* `disciplined_append` — a log is disciplined if its parts are, each after those before it
* `keeps_bracketed_session` — nothing but a session has to be known to know that it is bracketed
* `keeps_ordered_configure`, `keeps_ordered_arm`, `keeps_ordered_enable`, `keeps_ordered_shutDown` —
  what each sequence needs of the past
-/

namespace SerialAudio

open Register

/-! ## Bits of the control register -/

/-- The bits of a block that is on and out of standby. -/
def Register.ControlStatus.on : UInt32 := enable ||| standby

/-- The bits without which no direction may run. -/
def Register.ControlStatus.required : UInt32 := on ||| dmaEnable

/-- What two words have set, both have set together. -/
theorem Register.ControlStatus.or_and_or {v w m k : UInt32} (hm : v &&& m = m) (hk : w &&& k = k) :
    (v ||| w) &&& (m ||| k) = m ||| k := by
  apply UInt32.eq_of_toBitVec_eq
  ext i hi
  have bitm := congrArg (fun u => u.toBitVec[i]) hm
  have bitk := congrArg (fun u => u.toBitVec[i]) hk
  simp only [UInt32.toBitVec_and, BitVec.getElem_and] at bitm bitk
  simp only [UInt32.toBitVec_and, UInt32.toBitVec_or, BitVec.getElem_and, BitVec.getElem_or]
  rw [← bitm, ← bitk]
  cases v.toBitVec[i] <;> cases w.toBitVec[i] <;> simp

theorem Register.ControlStatus.or_and {v w m : UInt32} (hm : v &&& m = m) :
    (v ||| w) &&& m = m := by
  have set := or_and_or hm (w := w) UInt32.and_zero
  rwa [UInt32.or_zero] at set

namespace Event

/-! ## What the past says -/

/-- The last word written to the control register is `v`, and `since` is what happened after it. -/
def LastControl (past : List Event) (v : UInt32) (since : List Event) : Prop :=
  ∃ before, past = before ++ .write .controlStatus v :: since ∧
    ∀ w, .write .controlStatus w ∉ since

/-- The block was last told to be off. -/
def Off (past : List Event) : Prop :=
  ∃ v since, LastControl past v since ∧ v &&& ControlStatus.enable = 0

/-- The block was last told to be off with all its bits, and somebody waited for it to settle. -/
def Quiet (past : List Event) : Prop :=
  ∃ since us, LastControl past 0 since ∧ .delayUs us ∈ since ∧ 50 ≤ us

/-- The block was never told to be on. -/
def NeverOn (past : List Event) : Prop :=
  ∀ v, .write .controlStatus v ∈ past → v &&& ControlStatus.enable = 0

/-- What has to be seen to before the pins are routed. -/
structure Prepared (c : Config) (past : List Event) : Prop where
  /-- No pin was ever connected to anything else. -/
  kept : ∀ n f, .pin n f ∈ past → f = c.pinout.function
  /-- A block that makes the clock has it running. -/
  clocked : c.role = .master → (∃ d, .clockStart d ∈ past) ∧ .clockStop ∉ past

/-- The block may be on. -/
structure Ready (c : Config) (past : List Event) : Prop extends Prepared c past where
  /-- Every pin of the mode was routed. -/
  routed : ∀ n ∈ c.pinout.pins c.mode, .pin n c.pinout.function ∈ past

/-! ## The rules -/

/-- Guards do not nest, and a write needs one. -/
def Bracketed (past : List Event) : Event → Prop
  | .busEnter => unreleased past = []
  | .busExit => unreleased past ≠ []
  | .write _ _ => unreleased past ≠ []
  | _ => True

/-- The block is on only if it is ready, and runs only if it is on, out of standby and allowed to
ask for transfers. Frames are formatted while it is off. Its pins are routed before it is ever on,
and they are given back, like the clock, once it is off and has settled. -/
def Ordered (c : Config) (past : List Event) : Event → Prop
  | .write .controlStatus v =>
    (v &&& ControlStatus.enable ≠ 0 → Ready c past) ∧
      (v &&& (ControlStatus.transmit ||| ControlStatus.receive) ≠ 0 →
        v &&& ControlStatus.required = ControlStatus.required)
  | .write .mode _ => Off past
  | .write .txConfig _ => Off past
  | .write .rxConfig _ => Off past
  | .pin _ f => (f = c.pinout.function ∧ NeverOn past) ∨ (f = .input ∧ Quiet past)
  | .clockStop => Quiet past
  | _ => True

/-- Every event of a log keeps both rules, whatever follows it. -/
structure Disciplined (c : Config) (log : List Event) : Prop where
  /-- The guard. -/
  bracketed : ∀ past e, past ++ [e] <+: log → Bracketed past e
  /-- The order. -/
  ordered : ∀ past e, past ++ [e] <+: log → Ordered c past e

/-! ## Keeping a rule -/

variable {rule : List Event → Event → Prop} {past more body since : List Event} {e : Event}
  {c : Config} {v : UInt32}

/-- Events that come after a past keep a rule, one after the other. -/
def Keeps (rule : List Event → Event → Prop) (past : List Event) : List Event → Prop
  | [] => True
  | e :: more => rule past e ∧ Keeps rule (past ++ [e]) more

@[simp] theorem keeps_nil : Keeps rule past [] := trivial

@[simp] theorem keeps_cons :
    Keeps rule past (e :: more) ↔ rule past e ∧ Keeps rule (past ++ [e]) more := Iff.rfl

theorem keeps_append {first : List Event} :
    Keeps rule past (first ++ more) ↔ Keeps rule past first ∧ Keeps rule (past ++ first) more := by
  induction first generalizing past with
  | nil => simp
  | cons e first ih => simp [ih, and_assoc]

/-- What every event of a list keeps true is enough to go by. -/
theorem keeps_of_invariant (holds : List Event → Prop)
    (step : ∀ past, ∀ e ∈ more, holds past → rule past e ∧ holds (past ++ [e]))
    (h : holds past) : Keeps rule past more ∧ holds (past ++ more) := by
  induction more generalizing past with
  | nil => exact ⟨trivial, (List.append_nil past).symm ▸ h⟩
  | cons e more ih =>
    obtain ⟨he, h⟩ := step past e List.mem_cons_self h
    obtain ⟨hmore, h⟩ := ih (fun past e he => step past e (List.mem_cons_of_mem _ he)) h
    rw [List.append_assoc, List.singleton_append] at h
    exact ⟨⟨he, hmore⟩, h⟩

theorem forall_prefix_concat_iff :
    (∀ before e', before ++ [e'] <+: past ++ [e] → rule before e') ↔
      (∀ before e', before ++ [e'] <+: past → rule before e') ∧ rule past e := by
  constructor
  · intro h
    exact ⟨fun before e' hp => h before e' (hp.trans (List.prefix_append _ _)),
      h past e List.prefix_rfl⟩
  · rintro ⟨h, he⟩ before e' hp
    rcases List.prefix_concat_iff.mp hp with heq | hp
    · obtain ⟨rfl, hsingle⟩ := List.append_inj' heq rfl
      cases hsingle
      exact he
    · exact h before e' hp

/-- Every prefix can be looked at, or every event in turn. -/
theorem forall_prefix_append_iff :
    (∀ before e, before ++ [e] <+: past ++ more → rule before e) ↔
      (∀ before e, before ++ [e] <+: past → rule before e) ∧ Keeps rule past more := by
  induction more generalizing past with
  | nil => simp
  | cons e more ih => rw [List.append_cons, ih, forall_prefix_concat_iff, keeps_cons, and_assoc]

theorem disciplined_nil : Disciplined c [] := by
  have empty : ∀ past e, ¬past ++ [e] <+: ([] : List Event) := by simp
  exact ⟨fun past e hp => absurd hp (empty past e), fun past e hp => absurd hp (empty past e)⟩

theorem disciplined_append :
    Disciplined c (past ++ more) ↔
      Disciplined c past ∧ Keeps Bracketed past more ∧ Keeps (Ordered c) past more := by
  constructor
  · rintro ⟨hb, ho⟩
    obtain ⟨hb, hbmore⟩ := forall_prefix_append_iff.mp hb
    obtain ⟨ho, homore⟩ := forall_prefix_append_iff.mp ho
    exact ⟨⟨hb, ho⟩, hbmore, homore⟩
  · rintro ⟨⟨hb, ho⟩, hbmore, homore⟩
    exact ⟨forall_prefix_append_iff.mpr ⟨hb, hbmore⟩, forall_prefix_append_iff.mpr ⟨ho, homore⟩⟩

/-! ## The guard -/

/-- Whether an event takes or gives back the guard. -/
def isGuard : Event → Bool
  | .busEnter => true
  | .busExit => true
  | _ => false

/-- Whether an event is a write. -/
def isWrite : Event → Bool
  | .write _ _ => true
  | _ => false

theorem unreleased_concat_of_plain (h : e.isGuard = false) :
    unreleased (past ++ [e]) = unreleased past := by
  rw [unreleased_concat]
  cases e <;> first | rfl | exact nomatch h

theorem bracketed_of_plain (h : e.isGuard = false)
    (held : e.isWrite = true → unreleased past ≠ []) : Bracketed past e := by
  cases e with
  | busEnter => exact nomatch h
  | busExit => exact nomatch h
  | write r v => exact held rfl
  | delayUs us | pin n f | clockStart d | clockStop => exact trivial

/-- Events that leave the guard alone may be writes if it is held. -/
theorem keeps_bracketed_of_plain {held : List Nat} (before : unreleased past = held)
    (plain : ∀ e ∈ more, e.isGuard = false)
    (writes : ∀ e ∈ more, e.isWrite = true → held ≠ []) :
    Keeps Bracketed past more ∧ unreleased (past ++ more) = held := by
  refine keeps_of_invariant (unreleased · = held) (fun past e he before => ?_) before
  refine ⟨bracketed_of_plain (plain e he) fun hw => ?_, ?_⟩
  · rw [before]
    exact writes e he hw
  · rw [unreleased_concat_of_plain (plain e he), before]

/-- What is between the guard and its release does not matter, as long as it is neither. -/
theorem keeps_bracketed_session (free : unreleased past = [])
    (plain : ∀ e ∈ body, e.isGuard = false) :
    Keeps Bracketed past (.busEnter :: (body ++ [.busExit])) ∧
      unreleased (past ++ .busEnter :: (body ++ [.busExit])) = [] := by
  have entered : unreleased (past ++ [.busEnter]) = [past.length] := by
    rw [unreleased_concat, free]
    rfl
  obtain ⟨inside, held⟩ :=
    keeps_bracketed_of_plain entered plain fun _ _ _ => List.cons_ne_nil _ _
  constructor
  · refine ⟨free, keeps_append.mpr ⟨inside, ?_, trivial⟩⟩
    show unreleased _ ≠ []
    rw [held]
    exact List.cons_ne_nil _ _
  · rw [List.append_cons, ← List.append_assoc, unreleased_concat, held]
    rfl

/-- Without writes the guard is not needed. -/
theorem keeps_bracketed_unguarded (free : unreleased past = [])
    (plain : ∀ e ∈ more, e.isGuard = false ∧ e.isWrite = false) :
    Keeps Bracketed past more ∧ unreleased (past ++ more) = [] :=
  keeps_bracketed_of_plain free (fun e he => (plain e he).1)
    fun e he hw => absurd hw (by simp [(plain e he).2])

/-! ## The order -/

/-- Whether an event writes to the control register. -/
def isControl : Event → Bool
  | .write .controlStatus _ => true
  | _ => false

theorem lastControl_write : LastControl (past ++ [.write .controlStatus v]) v [] :=
  ⟨past, rfl, fun _ => List.not_mem_nil⟩

theorem LastControl.concat (h : LastControl past v since) (other : e.isControl = false) :
    LastControl (past ++ [e]) v (since ++ [e]) := by
  obtain ⟨before, rfl, none⟩ := h
  refine ⟨before, by rw [List.append_assoc, List.cons_append], fun w hw => ?_⟩
  rcases List.mem_append.mp hw with hw | hw
  · exact none w hw
  · cases List.mem_singleton.mp hw
    exact nomatch other

theorem Off.concat (h : Off past) (other : e.isControl = false) :
    Off (past ++ [e]) := by
  obtain ⟨v, since, last, hv⟩ := h
  exact ⟨v, _, last.concat other, hv⟩

theorem Quiet.concat (h : Quiet past) (other : e.isControl = false) :
    Quiet (past ++ [e]) := by
  obtain ⟨since, us, last, waited, hus⟩ := h
  exact ⟨_, us, last.concat other, List.mem_append_left _ waited, hus⟩

theorem NeverOn.append (h : NeverOn past)
    (off : ∀ v, .write .controlStatus v ∈ more → v &&& ControlStatus.enable = 0) :
    NeverOn (past ++ more) := by
  intro v hv
  rcases List.mem_append.mp hv with hv | hv
  · exact h v hv
  · exact off v hv

theorem Prepared.append (h : Prepared c past)
    (pins : ∀ n f, .pin n f ∈ more → f = c.pinout.function) (runs : .clockStop ∉ more) :
    Prepared c (past ++ more) where
  kept n f hf := by
    rcases List.mem_append.mp hf with hf | hf
    · exact h.kept n f hf
    · exact pins n f hf
  clocked hm := by
    obtain ⟨⟨d, hd⟩, hstop⟩ := h.clocked hm
    refine ⟨⟨d, List.mem_append_left _ hd⟩, fun hs => ?_⟩
    rcases List.mem_append.mp hs with hs | hs
    · exact hstop hs
    · exact runs hs

/-- Routing the pins is all that is left to do. -/
theorem Prepared.route (h : Prepared c past) :
    Ready c (past ++ (c.pinout.pins c.mode).map (.pin · c.pinout.function)) where
  toPrepared := by
    refine h.append (fun n f hf => ?_) (fun hs => ?_)
    · obtain ⟨_, -, heq⟩ := List.mem_map.mp hf
      cases heq
      rfl
    · obtain ⟨_, -, heq⟩ := List.mem_map.mp hs
      exact nomatch heq
  routed n hn := List.mem_append_right _ (List.mem_map_of_mem hn)

/-- Whether an event is about the pins or the clock. -/
def isOutside : Event → Bool
  | .pin _ _ => true
  | .clockStart _ => true
  | .clockStop => true
  | _ => false

/-- What happens to the block alone leaves it ready. -/
theorem Ready.append (h : Ready c past) (inside : ∀ e ∈ more, e.isOutside = false) :
    Ready c (past ++ more) where
  toPrepared :=
    h.toPrepared.append (fun _ _ hf => nomatch inside _ hf) fun hs => nomatch inside _ hs
  routed n hn := List.mem_append_left _ (h.routed n hn)

end Event

/-! ## The sequences -/

namespace Peripheral

open Event

variable {p : Peripheral} {c : Config} {past : List Event} {e : Event}

theorem ordered_of_off {v : UInt32} (off : v &&& ControlStatus.enable = 0)
    (idle : v &&& (ControlStatus.transmit ||| ControlStatus.receive) = 0) :
    Ordered c past (.write .controlStatus v) :=
  ⟨fun on => absurd off on, fun runs => absurd idle runs⟩

theorem keeps_ordered_format {role : Role} : Keeps (Ordered c) past (formatSteps role) := by
  have off : Off (past ++ [.write .controlStatus 0] ++ [.delayUs settleUs] ++
      [.write .controlStatus (ControlStatus.clearPlayback ||| ControlStatus.clearCapture)]) :=
    ⟨_, _, lastControl_write, by decide⟩
  have tx := off.concat (e := .delayUs settleUs) rfl
  have rx := tx.concat (e := .write .txConfig SlotLayout.map) rfl
  have mode := rx.concat (e := .write .rxConfig SlotLayout.map) rfl
  exact ⟨ordered_of_off (by decide) (by decide), trivial,
    ordered_of_off (by decide) (by decide), trivial, tx, rx, mode, trivial⟩

theorem keeps_ordered_routing (never : NeverOn past) {ns : List UInt8} :
    Keeps (Ordered c) past (ns.map (Event.pin · c.pinout.function)) := by
  refine (keeps_of_invariant NeverOn (fun before e he never => ?_) never).1
  obtain ⟨n, -, rfl⟩ := List.mem_map.mp he
  exact ⟨.inl ⟨rfl, never⟩, never.append (by simp)⟩

theorem keeps_ordered_wake (ready : Ready c past) : Keeps (Ordered c) past wakeSteps := by
  refine ⟨ordered_of_off (by decide) (by decide), trivial, ⟨fun _ => ?_, ?_⟩, trivial, trivial⟩
  · rw [List.append_assoc]
    exact ready.append (by simp [isOutside])
  · exact fun runs => absurd (by decide) runs

/-- Bringing the block up needs a clock if there is one to be made, and pins that nobody connected
to anything else. -/
theorem keeps_ordered_configure (never : NeverOn past) (prepared : Prepared c past) :
    Keeps (Ordered c) past (configureSession c.mode c.role c.pinout) ∧
      Ready c (past ++ configureSession c.mode c.role c.pinout) := by
  have off : ∀ v, .write .controlStatus v ∈ .busEnter :: formatSteps c.role →
      v &&& ControlStatus.enable = 0 := by
    intro v hv
    simp only [formatSteps, List.mem_cons, reduceCtorEq, Event.write.injEq, true_and, false_or,
      false_and, or_false, List.not_mem_nil] at hv
    rcases hv with rfl | rfl <;> decide
  have cleared : Prepared c (past ++ .busEnter :: formatSteps c.role) :=
    prepared.append (by simp [formatSteps]) (by simp [formatSteps])
  have routed := cleared.route
  have split : past ++ configureSession c.mode c.role c.pinout =
      past ++ .busEnter :: formatSteps c.role ++
        (c.pinout.pins c.mode).map (.pin · c.pinout.function) ++ (wakeSteps ++ [.busExit]) := by
    simp [configureSession]
  constructor
  · refine ⟨trivial, ?_⟩
    rw [keeps_append, keeps_append, keeps_append]
    refine ⟨⟨⟨keeps_ordered_format, ?_⟩, ?_⟩, trivial, trivial⟩
    · -- the block was cleared before its pins are routed, and both writes left it off
      rw [List.append_assoc]
      exact keeps_ordered_routing (never.append off)
    · rw [← List.append_assoc, List.append_assoc past]
      exact keeps_ordered_wake routed
  · rw [split]
    exact routed.append (by simp [wakeSteps, isOutside])

theorem isOutside_armSession {m : Mode} {chunk : Chunk} (he : e ∈ p.armSession m chunk) :
    e.isOutside = false := by
  rcases List.mem_cons.mp he with rfl | he
  · rfl
  · rcases List.mem_append.mp he with he | he
    · obtain ⟨v, rfl⟩ := mem_levelWrites he
      rfl
    · simp only [List.mem_cons, List.not_mem_nil, or_false] at he
      rcases he with rfl | rfl <;> rfl

theorem isOutside_enableSession {m : Mode} (he : e ∈ p.enableSession m) : e.isOutside = false := by
  simp only [enableSession, List.mem_cons, List.not_mem_nil, or_false] at he
  rcases he with rfl | rfl | rfl <;> rfl

/-- Arming needs a block that was brought up. -/
theorem keeps_ordered_arm (ready : Ready c past)
    (on : p.read .controlStatus &&& ControlStatus.on = ControlStatus.on) :
    Keeps (Ordered c) past (p.armSession c.mode c.chunk) ∧
      Ready c (past ++ p.armSession c.mode c.chunk) := by
  have lowered : Ready c (past ++ .busEnter ::
      levelWrites (p.read .dmaRequest) (shortDirections c.mode c.chunk)) := by
    refine ready.append fun e he => ?_
    rcases List.mem_cons.mp he with rfl | he
    · rfl
    · obtain ⟨v, rfl⟩ := mem_levelWrites he
      rfl
  constructor
  · refine ⟨trivial, keeps_append.mpr ⟨?_, ⟨fun _ => ?_, fun _ => ?_⟩, trivial, trivial⟩⟩
    · -- request levels may be written at any time
      refine (keeps_of_invariant (fun _ => True) (fun _ e he _ => ?_) trivial).1
      obtain ⟨v, rfl⟩ := mem_levelWrites he
      exact ⟨trivial, trivial⟩
    · rw [List.append_assoc]
      exact lowered
    · exact ControlStatus.or_and_or on UInt32.and_self
  · exact ready.append fun _ => isOutside_armSession

/-- Enabling needs a block that was armed. -/
theorem keeps_ordered_enable (ready : Ready c past)
    (armed : p.read .controlStatus &&& ControlStatus.required = ControlStatus.required) :
    Keeps (Ordered c) past (p.enableSession c.mode) ∧
      Ready c (past ++ p.enableSession c.mode) := by
  constructor
  · exact ⟨trivial, ⟨fun _ => ready.append (by simp [isOutside]),
      fun _ => ControlStatus.or_and armed⟩, trivial, trivial⟩
  · exact ready.append fun _ => isOutside_enableSession

/-- Once the block is quiet the clock and the pins can be given up, in any order. -/
theorem ordered_of_quiet (quiet : Quiet past) (h : e = .clockStop ∨ ∃ n, e = .pin n .input) :
    Ordered c past e ∧ Quiet (past ++ [e]) := by
  obtain rfl | ⟨n, rfl⟩ := h
  · exact ⟨quiet, quiet.concat rfl⟩
  · exact ⟨.inr ⟨rfl, quiet⟩, quiet.concat rfl⟩

/-- Shutting down can be done at any time. -/
theorem keeps_ordered_shutDown {m : Mode} {role : Role} {o : Pinout} :
    Keeps (Ordered c) past (shutDownSession m role o) := by
  have quiet : Quiet (past ++ [.busEnter] ++ [.write .controlStatus 0] ++
      [.delayUs standbySettleUs]) :=
    ⟨_, standbySettleUs, lastControl_write.concat rfl, List.mem_singleton_self _, by decide⟩
  rw [shutDownSession, List.append_assoc, keeps_append]
  refine ⟨⟨trivial, ordered_of_off (by decide) (by decide), trivial, trivial, trivial⟩, ?_⟩
  -- nothing that follows writes to the control register, so the block stays quiet
  refine (keeps_of_invariant Quiet
    (fun before e he quiet => ordered_of_quiet quiet ?_) ?_).1
  · rcases List.mem_append.mp he with he | he
    · split at he
      · exact .inl (List.mem_singleton.mp he)
      · exact absurd he List.not_mem_nil
    · obtain ⟨n, -, rfl⟩ := List.mem_map.mp he
      exact .inr ⟨n, rfl⟩
  · have released := quiet.concat (e := .busExit) rfl
    simpa only [List.append_assoc, List.cons_append, List.nil_append] using released

/-! ## The sequences and the guard -/

theorem keeps_bracketed_configure (free : unreleased past = []) (m : Mode) (role : Role)
    (o : Pinout) :
    Keeps Bracketed past (configureSession m role o) ∧
      unreleased (past ++ configureSession m role o) = [] := by
  have format : ∀ e ∈ formatSteps role, e.isGuard = false := by simp [formatSteps, isGuard]
  have wake : ∀ e ∈ wakeSteps, e.isGuard = false := by simp [wakeSteps, isGuard]
  refine keeps_bracketed_session free fun e he => ?_
  rcases List.mem_append.mp he with he | he
  · rcases List.mem_append.mp he with he | he
    · exact format e he
    · obtain ⟨n, -, rfl⟩ := List.mem_map.mp he
      rfl
  · exact wake e he

theorem keeps_bracketed_arm (free : unreleased past = []) {m : Mode} {chunk : Chunk} :
    Keeps Bracketed past (p.armSession m chunk) ∧
      unreleased (past ++ p.armSession m chunk) = [] := by
  have split : p.armSession m chunk = .busEnter ::
      (levelWrites (p.read .dmaRequest) (shortDirections m chunk) ++
        [.write .controlStatus (p.read .controlStatus ||| ControlStatus.dmaEnable)] ++
        [.busExit]) := by
    rw [List.append_assoc]
    rfl
  rw [split]
  refine keeps_bracketed_session free fun e he => ?_
  rcases List.mem_append.mp he with he | he
  · obtain ⟨v, rfl⟩ := mem_levelWrites he
    rfl
  · cases List.mem_singleton.mp he
    rfl

theorem keeps_bracketed_enable (free : unreleased past = []) {m : Mode} :
    Keeps Bracketed past (p.enableSession m) ∧ unreleased (past ++ p.enableSession m) = [] := by
  have plain : ∀ e ∈ [Event.write .controlStatus
      (p.read .controlStatus ||| ControlStatus.enableBits m)], e.isGuard = false := by
    simp [isGuard]
  exact keeps_bracketed_session free plain

theorem keeps_bracketed_shutDown (free : unreleased past = []) (m : Mode) (role : Role)
    (o : Pinout) : Keeps Bracketed past (shutDownSession m role o) := by
  have plain : ∀ e ∈ [Event.write .controlStatus 0, .delayUs standbySettleUs],
      e.isGuard = false := by simp [isGuard]
  obtain ⟨off, free⟩ := keeps_bracketed_session free plain
  rw [shutDownSession, List.append_assoc, keeps_append]
  refine ⟨off, (keeps_bracketed_unguarded free fun e he => ?_).1⟩
  rcases List.mem_append.mp he with he | he
  · split at he
    · cases List.mem_singleton.mp he
      exact ⟨rfl, rfl⟩
    · exact absurd he List.not_mem_nil
  · obtain ⟨n, -, rfl⟩ := List.mem_map.mp he
    exact ⟨rfl, rfl⟩

end Peripheral

end SerialAudio
