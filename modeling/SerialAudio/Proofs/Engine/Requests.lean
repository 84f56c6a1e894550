import SerialAudio.Proofs.Engine.Start
/-!
# The block while lanes are asked to start

A start asks its lanes after it armed the block and before it lets the block run, so that the block
does not run dry while its transfers are set up. That is the order of one start. Whether the block
is *off* when a lane is asked is another matter, since a start finds the block as the acts before it
left it: starts only ever add bits to the control register, and neither a cancel nor the end of the
last transfer takes any away.

So the control register of an engine is known from the outcomes of its starts, and from nothing
else. `controlWord` is what it holds, and the block is off exactly until some start went through.

## Main results

* `starts_start`, `starts_of_requests_eq` — `requests` is what a start asks, and when
* `controlStatus_after` — what the control register holds along every history
* `off_at_request_iff` — when the block is off while a lane is asked to start
-/

namespace SerialAudio

open Register

/-- No direction of the block runs. -/
def Peripheral.Off (p : Peripheral) : Prop :=
  p.read .controlStatus &&& (ControlStatus.transmit ||| ControlStatus.receive) = 0

instance {p : Peripheral} : Decidable p.Off := inferInstanceAs (Decidable (_ = _))

/-- Whether a start let the block ask for transfers. -/
def Outcome.armed : Outcome → Bool
  | .started (.ok _) => true
  | .started (.error (.dma _)) => true
  | _ => false

/-- Whether a start let the block run. -/
def Outcome.ran : Outcome → Bool
  | .started (.ok _) => true
  | _ => false

namespace Installed

variable {n : Nat} {s t : Installed n} {d : Direction} {ds : List Direction} {a : Act}
  {acts : List Act}

/-! ## What a start asks -/

/-- The lanes that are asked in turn until one is refused, each with the engine at that moment. -/
def laneRequests : List Direction → Installed n → List (Direction × Installed n)
  | [], _ => []
  | d :: ds, s =>
    (d, s) ::
      match s.startLane d with
      | (.ok (), s) => laneRequests ds s
      | (.error _, _) => []

/-- The lanes that a start asks, each with the engine at that moment. -/
def requests (s : Installed n) : List (Direction × Installed n) :=
  if s.isFaulted then []
  else
    match s.prepareCodec with
    | (.error _, _) => []
    | (.ok (), s) => laneRequests s.directions s.arm

/-- Bringing the codec up is no business of the block or of the controller. -/
theorem untouched_prepareCodec :
    s.prepareCodec.2.rig.peripheral = s.rig.peripheral ∧
      s.prepareCodec.2.rig.transport.dma = s.rig.transport.dma := by
  rw [prepareCodec]
  split
  · rw [setUpCodec]
    split <;> exact ⟨rfl, rfl⟩
  · exact ⟨rfl, rfl⟩

/-- A lane that is asked is entered in the record, and the block hears nothing of it. -/
theorem starts_startLane :
    (s.startLane d).2.rig.transport.dma.starts = s.rig.transport.dma.starts ++ [d] ∧
      (s.startLane d).2.rig.peripheral = s.rig.peripheral := by
  have hs : (s.rig.transport.dma.start d s.engine.link).2.starts = _ := Dma.starts_start
  rw [startLane]
  split <;> rename_i h <;> rw [h] at hs <;> exact ⟨hs, rfl⟩

theorem starts_startLanes :
    (startLanes ds s).2.rig.transport.dma.starts =
      s.rig.transport.dma.starts ++ (laneRequests ds s).map Prod.fst := by
  induction ds generalizing s with
  | nil => exact (List.append_nil _).symm
  | cons d ds ih =>
    have hd := (starts_startLane (s := s) (d := d)).1
    rw [startLanes, laneRequests, List.map_cons]
    rcases hs : s.startLane d with ⟨e | ⟨⟩, u⟩
    · rw [hs] at hd
      exact hd
    · rw [hs] at hd
      dsimp only at hd ⊢
      rw [ih, hd, List.append_assoc, List.singleton_append]

/-- **The record of the controller grows by what is asked.** -/
theorem starts_start :
    s.start.2.rig.transport.dma.starts =
      s.rig.transport.dma.starts ++ s.requests.map Prod.fst := by
  rw [start, requests]
  split
  · exact (List.append_nil _).symm
  · have hp := congrArg Dma.starts (untouched_prepareCodec (s := s)).2
    rcases hs : s.prepareCodec with ⟨e | ⟨⟩, u⟩
    · rw [hs] at hp
      exact hp.trans (List.append_nil _).symm
    · rw [hs] at hp
      have hl : (startLanes u.directions u.arm).2.rig.transport.dma.starts = _ := starts_startLanes
      dsimp only
      rcases hq : startLanes u.directions u.arm with ⟨e | ⟨⟩, w⟩
      · rw [hq] at hl
        exact hl.trans (congrArg (· ++ _) hp)
      · rw [hq] at hl
        exact hl.trans (congrArg (· ++ _) hp)

theorem starts_of_laneRequests_eq {earlier later : List (Direction × Installed n)}
    (h : laneRequests ds s = earlier ++ (d, t) :: later) :
    t.rig.transport.dma.starts = s.rig.transport.dma.starts ++ earlier.map Prod.fst ∧
      t.rig.peripheral = s.rig.peripheral := by
  induction ds generalizing s earlier with
  | nil => exact absurd h.symm (List.append_ne_nil_of_right_ne_nil _ (List.cons_ne_nil _ _))
  | cons e ds ih =>
    rw [laneRequests] at h
    cases earlier with
    | nil =>
      cases List.head_eq_of_cons_eq h
      exact ⟨(List.append_nil _).symm, rfl⟩
    | cons x earlier =>
      rw [List.cons_append] at h
      cases List.head_eq_of_cons_eq h
      have hd := starts_startLane (s := s) (d := e)
      have htail := List.tail_eq_of_cons_eq h
      rcases hs : s.startLane e with ⟨c | ⟨⟩, u⟩
      · rw [hs] at htail
        exact absurd htail.symm (List.append_ne_nil_of_right_ne_nil _ (List.cons_ne_nil _ _))
      · rw [hs] at htail hd
        obtain ⟨hstarts, hperipheral⟩ := ih htail
        dsimp only at hd
        rw [hstarts, hperipheral, hd.1, hd.2, List.append_assoc]
        exact ⟨rfl, rfl⟩

/-- **A lane is asked after the block was armed, and after the lanes before it.** -/
theorem starts_of_requests_eq {earlier later : List (Direction × Installed n)}
    (h : s.requests = earlier ++ (d, t) :: later) :
    t.rig.transport.dma.starts = s.rig.transport.dma.starts ++ earlier.map Prod.fst ∧
      t.rig.peripheral =
        s.rig.peripheral.armDma s.engine.config.mode s.engine.config.chunk := by
  have hne : [] ≠ earlier ++ (d, t) :: later :=
    (List.append_ne_nil_of_right_ne_nil _ (List.cons_ne_nil _ _)).symm
  rw [requests] at h
  split at h
  · exact absurd h hne
  · have hp := untouched_prepareCodec (s := s)
    have hc := config_prepareCodec (s := s)
    rcases hs : s.prepareCodec with ⟨e | ⟨⟩, u⟩
    · rw [hs] at h
      exact absurd h hne
    · rw [hs] at h hp hc
      obtain ⟨hstarts, hperipheral⟩ := starts_of_laneRequests_eq h
      dsimp only at hp hc
      constructor
      · exact hstarts.trans (congrArg (fun c => c.starts ++ _) hp.2)
      · rw [hperipheral, arm, hp.1, hc]

/-! ## What the control register holds -/

/-- The control register of an engine whose starts let the block ask for transfers, or run. -/
def controlWord (m : Mode) (armed ran : Bool) : UInt32 :=
  Peripheral.restingControl ||| (if armed then ControlStatus.dmaEnable else 0)
    ||| (if ran then ControlStatus.enableBits m else 0)

theorem controlWord_arm {m : Mode} {armed ran : Bool} :
    controlWord m armed ran ||| ControlStatus.dmaEnable = controlWord m true ran := by
  cases m <;> cases armed <;> cases ran <;> decide

theorem controlWord_enable {m : Mode} {armed ran : Bool} :
    controlWord m armed ran ||| ControlStatus.enableBits m = controlWord m armed true := by
  cases m <;> cases armed <;> cases ran <;> decide

/-- The bits of the directions are among those that a start sets at its end, and among no others. -/
theorem controlWord_and_eq_zero_iff {m : Mode} {armed ran : Bool} :
    controlWord m armed ran &&& (ControlStatus.transmit ||| ControlStatus.receive) = 0 ↔
      ran = false := by
  cases m <;> cases armed <;> cases ran <;> decide

variable {armed ran : Bool}

/-- A start adds bits by how far it came. -/
theorem controlStatus_start
    (h : s.rig.peripheral.read .controlStatus = controlWord s.engine.config.mode armed ran) :
    s.start.2.rig.peripheral.read .controlStatus =
      controlWord s.engine.config.mode (armed || (Outcome.started s.start.1).armed)
        (ran || (Outcome.started s.start.1).ran) := by
  have ending := start_case s
  generalize s.start.1 = r, s.start.2 = t at ending ⊢
  cases ending with
  | faulted _ =>
    show _ = controlWord _ (armed || false) (ran || false)
    rw [Bool.or_false, Bool.or_false]
    exact h
  | codec _ _ =>
    show _ = controlWord _ (armed || false) (ran || false)
    rw [Bool.or_false, Bool.or_false]
    exact h
  | lane _ _ _ =>
    show Peripheral.read (s.rig.peripheral.armDma _ _) _ =
      controlWord _ (armed || true) (ran || false)
    rw [Peripheral.read_controlStatus_armDma, h, controlWord_arm, Bool.or_true, Bool.or_false]
  | ok _ _ _ =>
    show Peripheral.read ((s.rig.peripheral.armDma _ _).enable s.engine.config.mode) _ =
      controlWord _ (armed || true) (ran || true)
    rw [Peripheral.read_controlStatus_enable, Peripheral.read_controlStatus_armDma, h,
      controlWord_arm, controlWord_enable, Bool.or_true, Bool.or_true]

/-- No other act writes to the block. -/
theorem controlStatus_step
    (h : s.rig.peripheral.read .controlStatus = controlWord s.engine.config.mode armed ran) :
    (s.step a).2.rig.peripheral.read .controlStatus =
      controlWord s.engine.config.mode (armed || (s.step a).1.armed)
        (ran || (s.step a).1.ran) := by
  cases a with
  | start => exact controlStatus_start h
  | cancel | refuse | finish | fail =>
    show _ = controlWord _ (armed || false) (ran || false)
    rw [Bool.or_false, Bool.or_false]
    exact h

theorem controlStatus_after_of_eq
    (h : s.rig.peripheral.read .controlStatus = controlWord s.engine.config.mode armed ran) :
    (s.after acts).rig.peripheral.read .controlStatus =
      controlWord s.engine.config.mode (armed || (s.outcomes acts).any Outcome.armed)
        (ran || (s.outcomes acts).any Outcome.ran) := by
  induction acts generalizing s armed ran with
  | nil =>
    rw [after_nil, outcomes_nil, List.any_nil, List.any_nil, Bool.or_false, Bool.or_false]
    exact h
  | cons a acts ih =>
    have step := controlStatus_step (a := a) h
    rw [← config_step (s := s) (a := a)] at step
    rw [after_cons, ih step, config_step, outcomes_cons, List.any_cons, List.any_cons,
      Bool.or_assoc, Bool.or_assoc]

/-- **The outcomes of the starts decide what the control register holds.** -/
theorem controlStatus_after (hs : s.Built) (acts : List Act) :
    (s.after acts).rig.peripheral.read .controlStatus =
      controlWord s.engine.config.mode ((s.outcomes acts).any Outcome.armed)
        ((s.outcomes acts).any Outcome.ran) := by
  have h : s.rig.peripheral.read .controlStatus =
      controlWord s.engine.config.mode false false := by
    rw [hs.controlStatus]
    cases s.engine.config.mode <;> decide
  rw [controlStatus_after_of_eq h, Bool.false_or, Bool.false_or]

/-! ## When the block is off -/

theorem any_ran_eq_false_iff {os : List Outcome} :
    os.any Outcome.ran = false ↔ .started (.ok ()) ∉ os := by
  rw [List.any_eq_false]
  constructor
  · intro h hm
    exact h _ hm rfl
  · rintro h (_ | ⟨_ | ⟨⟩⟩ | _) hm
    · exact nofun
    · exact nofun
    · exact absurd hm h
    · exact nofun

/-- A block that a start armed is off exactly if none has let it run. -/
theorem off_armDma_iff (hs : s.Built) {c : Chunk} :
    ((s.after acts).rig.peripheral.armDma (s.after acts).engine.config.mode c).Off ↔
      .started (.ok ()) ∉ s.outcomes acts := by
  rw [Peripheral.Off, Peripheral.read_controlStatus_armDma, controlStatus_after hs,
    controlWord_arm, controlWord_and_eq_zero_iff, any_ran_eq_false_iff]

/-- **The block is off while lanes are asked exactly as long as no start went through.** The same
goes for what a start leaves that was refused a lane. -/
theorem off_at_request_iff (hs : s.Built) (acts : List Act) :
    (∀ d t, (d, t) ∈ (s.after acts).requests →
        (t.rig.peripheral.Off ↔ .started (.ok ()) ∉ s.outcomes acts)) ∧
      ∀ d, (s.after acts).start.1 = .error (.dma d) →
        ((s.after acts).start.2.rig.peripheral.Off ↔ .started (.ok ()) ∉ s.outcomes acts) := by
  constructor
  · intro d t ht
    obtain ⟨earlier, later, h⟩ := List.append_of_mem ht
    rw [(starts_of_requests_eq h).2]
    exact off_armDma_iff hs
  · intro d hd
    rw [(laneFailure_start hd).peripheral]
    exact off_armDma_iff hs

/-- The first start of a duplex engine finds the block off, down to its second lane. -/
theorem off_at_request_first :
    (alone .duplex .probe none).Built ∧
      ∃ t, (.receive, t) ∈ ((alone .duplex .probe none).after [.cancel]).requests ∧
        t.rig.peripheral.Off := by
  have asked : (.receive, _) ∈ ((alone .duplex .probe none).after [.cancel]).requests :=
    List.mem_cons_of_mem _ List.mem_cons_self
  refine ⟨built_alone, _, asked, ?_⟩
  exact ((off_at_request_iff built_alone [.cancel]).1 _ _ asked).mpr (by simp [step])

/-- An engine that played, was cancelled and fell idle, and is refused its lane from then on. -/
def played : Installed 1 :=
  (alone .playback .probe none).after
    [.start, .cancel, .finish .transmit [], .refuse .transmit]

/-- **The next start finds the block running.** Nothing of the engine runs, and the lane that is
asked is idle, but playback is still on in the control register, and it stays on when the start is
refused. -/
theorem running_at_request :
    (alone .playback .probe none).Built ∧ played.isActive = false ∧
      played.start.1 = .error (.dma .transmit) ∧ ¬played.start.2.rig.peripheral.Off ∧
      ∃ t, (.transmit, t) ∈ played.requests ∧ (t.lane .transmit).active = false ∧
        ¬t.rig.peripheral.Off :=
  ⟨built_alone, rfl, rfl, by decide, _, List.mem_cons_self, rfl, by decide⟩

end Installed

end SerialAudio
