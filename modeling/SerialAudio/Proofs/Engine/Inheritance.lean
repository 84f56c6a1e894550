import SerialAudio.Proofs.Engine.Removal
/-!
# What an engine leaves to the next one

A block serves one engine after the other. Bringing it up writes four of its five registers, so
that nothing of an engine before is left in them. The request levels are only ever read and written
back: a start with a short chunk lowers the level of each direction in use, a start with a longer
one takes the levels to be those of a block that was just reset, and neither shutting the block down
nor bringing it up again makes them so.

So a level that was lowered stays lowered, and the next engine starts with it unless it would have
lowered the level itself. That is all that is handed down. It is one field for each direction, and
it is handed down by every engine that came as far as its lanes, whether its start went through or
not.

## Main results

* `registers_of_life` — the registers that a whole life leaves
* `registers_of_start_eq_ok` — the registers of an engine that was started
* `level_of_life`, `others_of_life` — what of it the next engine finds in the request levels
* `registers_inherited_iff` — when the next engine finds nothing of the one before
-/

namespace SerialAudio

open Register

/-- Whether the engines of a configuration lower the level of a direction when they start. -/
def Config.lowers (c : Config) (d : Direction) : Bool :=
  decide (c.chunk.slots < 64) && c.mode.uses d

namespace Installed

variable {n m k : Nat} {rig rig' : Rig n} {config config' : Config} {link : Fin n} {wired : Bool}
  {engine : Engine n} {d : Direction} {found : UInt32}
  {second second' : Rig m} {link' : Fin m} {wired' : Bool} {engine' : Engine m}
  {direct direct' : Rig k} {link'' : Fin k} {wired'' : Bool} {engine'' : Engine k}

/-- The registers of an engine, from what it found and what came of its starts. -/
theorem registers_after_eq (built : rig.install config link wired = (.ok engine, rig'))
    (acts : List Act) :
    ((⟨engine, rig'⟩ : Installed n).after acts).rig.peripheral.registers =
      .settled config rig.peripheral.registers.dmaRequest
        (((⟨engine, rig'⟩ : Installed n).outcomes acts).any Outcome.armed)
        (((⟨engine, rig'⟩ : Installed n).outcomes acts).any Outcome.ran) := by
  have begun := registers_of_install_eq_ok built
  obtain ⟨rfl, -⟩ := of_install_eq_ok built
  have lived :
      ((⟨{ config, link, wired }, rig'⟩ : Installed n).after acts).rig.peripheral.registers = _ :=
    registers_after_of_eq begun
  rw [Bool.false_or, Bool.false_or] at lived
  exact lived

/-- **What a whole life leaves.** The block is off, and the rest is as the engine had it. -/
theorem registers_of_life (built : rig.install config link wired = (.ok engine, rig'))
    (acts : List Act) :
    ((⟨engine, rig'⟩ : Installed n).after acts).remove.peripheral.registers =
      (RegisterFile.settled config rig.peripheral.registers.dmaRequest
        (((⟨engine, rig'⟩ : Installed n).outcomes acts).any Outcome.armed)
        (((⟨engine, rig'⟩ : Installed n).outcomes acts).any Outcome.ran)).set .controlStatus 0 := by
  rw [peripheral_remove built, Peripheral.registers_shutDown, registers_after_eq built]

/-- The registers of an engine whose first start went through. -/
theorem registers_of_start_eq_ok (built : rig.install config link wired = (.ok engine, rig'))
    (started : (⟨engine, rig'⟩ : Installed n).start.1 = .ok ()) :
    (⟨engine, rig'⟩ : Installed n).start.2.rig.peripheral.registers =
      .settled config rig.peripheral.registers.dmaRequest true true := by
  have outcomes : (⟨engine, rig'⟩ : Installed n).outcomes [.start] = [.started (.ok ())] :=
    congrArg (fun r => [Outcome.started r]) started
  have lived := registers_after_eq built [.start]
  rw [outcomes] at lived
  exact lived

theorem dmaRequest_of_life (built : rig.install config link wired = (.ok engine, rig'))
    (acts : List Act) :
    ((⟨engine, rig'⟩ : Installed n).after acts).remove.peripheral.registers.dmaRequest =
      (RegisterFile.settled config rig.peripheral.registers.dmaRequest
        (((⟨engine, rig'⟩ : Installed n).outcomes acts).any Outcome.armed)
        (((⟨engine, rig'⟩ : Installed n).outcomes acts).any Outcome.ran)).dmaRequest := by
  rw [registers_of_life built]
  rfl

theorem level_of_life (built : rig.install config link wired = (.ok engine, rig'))
    (acts : List Act) :
    RequestLevel.level d
        ((⟨engine, rig'⟩ : Installed n).after acts).remove.peripheral.registers.dmaRequest =
      if ((⟨engine, rig'⟩ : Installed n).outcomes acts).any Outcome.armed && config.lowers d
        then 0x18 else RequestLevel.level d rig.peripheral.registers.dmaRequest := by
  rw [dmaRequest_of_life built]
  exact level_settled

theorem others_of_life (built : rig.install config link wired = (.ok engine, rig'))
    (acts : List Act) :
    ((⟨engine, rig'⟩ : Installed n).after acts).remove.peripheral.registers.dmaRequest &&&
        RequestLevel.others =
      rig.peripheral.registers.dmaRequest &&& RequestLevel.others := by
  rw [dmaRequest_of_life built, others_settled]

/-! ## The next engine -/

/-- The level that a started engine works with. -/
theorem level_settled_started : RequestLevel.level d
    (RegisterFile.settled config found true true).dmaRequest =
      if config.lowers d then 0x18 else RequestLevel.level d found := by
  rw [level_settled, Bool.true_and]
  rfl

/-- Two engines of a configuration that were started have the same registers if they have the same
levels, apart from what no engine ever changes. -/
theorem settled_eq_iff {found' : UInt32}
    (rest : found &&& RequestLevel.others = found' &&& RequestLevel.others) :
    RegisterFile.settled config found true true = .settled config found' true true ↔
      ∀ d, config.lowers d = true ∨ RequestLevel.level d found = RequestLevel.level d found' := by
  constructor
  · intro same d
    have levels := congrArg (fun f => RequestLevel.level d f.dmaRequest) same
    rw [level_settled_started, level_settled_started] at levels
    cases lowers : config.lowers d with
    | true => exact .inl rfl
    | false =>
      rw [lowers] at levels
      exact .inr levels
  · intro same
    have words : (RegisterFile.settled config found true true).dmaRequest =
        (RegisterFile.settled config found' true true).dmaRequest := by
      refine RequestLevel.eq_of_levels (fun d => ?_) ?_
      · rw [level_settled_started, level_settled_started]
        rcases same d with lowers | levels
        · rw [lowers]
          rfl
        · rw [levels]
      · rw [others_settled, others_settled, rest]
    rw [RegisterFile.mk.injEq]
    exact ⟨rfl, rfl, rfl, rfl, words⟩

/-- **When the next engine finds nothing of the one before.** An engine lived on a block, a second
one is built on what it left and started, and for comparison the second one is built and started on
a block that holds what the first one found. Their registers are the same exactly if, for each
direction whose level the first engine lowered, the second engine lowers it as well or it was low to
begin with. A level that the first engine lowered is low for the second one too, and any other level
is what it would be without the first engine. The other four registers, and the bits of the request
levels that belong to no direction, are always the same. -/
theorem registers_inherited_iff (built : rig.install config link wired = (.ok engine, rig'))
    (acts : List Act)
    (left : second.peripheral.registers =
      ((⟨engine, rig'⟩ : Installed n).after acts).remove.peripheral.registers)
    (rebuilt : second.install config' link' wired' = (.ok engine', second'))
    (restarted : (⟨engine', second'⟩ : Installed m).start.1 = .ok ())
    (same : direct.peripheral.registers = rig.peripheral.registers)
    (anew : direct.install config' link'' wired'' = (.ok engine'', direct'))
    (started : (⟨engine'', direct'⟩ : Installed k).start.1 = .ok ()) :
    let lowered (d : Direction) : Bool :=
      ((⟨engine, rig'⟩ : Installed n).outcomes acts).any Outcome.armed && config.lowers d
    let found := rig.peripheral.registers.dmaRequest
    let heir := (⟨engine', second'⟩ : Installed m).start.2.rig.peripheral.registers
    let fresh := (⟨engine'', direct'⟩ : Installed k).start.2.rig.peripheral.registers
    (heir = fresh ↔ ∀ d, lowered d = true →
        config'.lowers d = true ∨ RequestLevel.level d found = 0x18) ∧
      (heir.controlStatus = fresh.controlStatus ∧ heir.mode = fresh.mode ∧
        heir.txConfig = fresh.txConfig ∧ heir.rxConfig = fresh.rxConfig) ∧
      heir.dmaRequest &&& RequestLevel.others = fresh.dmaRequest &&& RequestLevel.others ∧
      ∀ d, RequestLevel.level d heir.dmaRequest =
        if lowered d then 0x18 else RequestLevel.level d fresh.dmaRequest := by
  intro lowered found heir fresh
  have hheir : heir = .settled config' second.peripheral.registers.dmaRequest true true :=
    registers_of_start_eq_ok rebuilt restarted
  have hfresh : fresh = .settled config' found true true :=
    (registers_of_start_eq_ok anew started).trans (by rw [same])
  have rest : second.peripheral.registers.dmaRequest &&& RequestLevel.others =
      found &&& RequestLevel.others := by
    rw [left]
    exact others_of_life built acts
  have inherited : ∀ d, RequestLevel.level d second.peripheral.registers.dmaRequest =
      if lowered d then 0x18 else RequestLevel.level d found := by
    intro d
    rw [left]
    exact level_of_life built acts
  rw [hheir, hfresh]
  refine ⟨?_, ⟨rfl, rfl, rfl, rfl⟩, ?_, fun d => ?_⟩
  · rw [settled_eq_iff rest]
    refine forall_congr' fun d => ?_
    rw [inherited]
    cases lowered d with
    | false => exact iff_of_true (.inr rfl) nofun
    | true => exact ⟨fun h _ => h.imp_right Eq.symm, fun h => (h rfl).imp_right Eq.symm⟩
  · rw [others_settled, others_settled, rest]
  · rw [level_settled_started, level_settled_started, inherited]
    cases config'.lowers d <;> cases lowered d <;> rfl

/-- An engine that plays is followed by one that plays and records, with chunks as short as its own:
nothing is left of it. -/
theorem registers_inherited_short :
    let s := alone .playback .probe none
    let next : Config := { s.engine.config with mode := .duplex }
    let left := (s.after [.start, .cancel, .finish .transmit [0]]).remove
    (Rig.bare none).install s.engine.config 0 true = (.ok s.engine, s.rig) ∧
      ∃ engine second direct, left.install next 0 true = (.ok engine, second) ∧
        (Rig.bare none).install next 0 true = (.ok engine, direct) ∧
        (⟨engine, second⟩ : Installed 1).start.1 = .ok () ∧
        (⟨engine, direct⟩ : Installed 1).start.1 = .ok () ∧
        (⟨engine, second⟩ : Installed 1).start.2.rig.peripheral.registers =
          (⟨engine, direct⟩ : Installed 1).start.2.rig.peripheral.registers := by
  intro s next left
  have built : (Rig.bare none).install s.engine.config 0 true = (.ok s.engine, s.rig) :=
    install_of_following rfl
  have rebuilt : left.install next 0 true = (.ok _, _) := install_of_following rfl
  have anew : (Rig.bare none).install next 0 true = (.ok _, _) := install_of_following rfl
  refine ⟨built, _, _, _, rebuilt, anew, rfl, rfl, ?_⟩
  refine (registers_inherited_iff built _ rfl rebuilt rfl rfl anew rfl).1.mpr ?_
  intro d _
  exact .inl (by cases d <;> rfl)

/-- **A lowered level outlives its engine.** An engine plays with a short chunk, drains and is
removed, and another one is built on the same block, with a chunk that is long enough for the levels
of a block that was just reset. It plays with the lowered level, and would play with the level that
the first engine found if that one had never been there. -/
theorem level_outlives_engine :
    let short : Config :=
      { mode := .playback, chunk := ⟨32, by decide, by decide⟩, rate := .external 48000 }
    let long : Config := { short with chunk := ⟨64, by decide, by decide⟩ }
    let rig : Rig 1 := { Rig.bare none with peripheral.registers.dmaRequest := 0x3030 }
    let acts : List Act := [.start, .cancel, .finish .transmit [0]]
    ∃ engine rig', rig.install short 0 true = (.ok engine, rig') ∧
      let left := ((⟨engine, rig'⟩ : Installed 1).after acts).remove
      ∃ engine' second' direct', left.install long 0 true = (.ok engine', second') ∧
        rig.install long 0 true = (.ok engine', direct') ∧
        (⟨engine', second'⟩ : Installed 1).start.1 = .ok () ∧
        (⟨engine', direct'⟩ : Installed 1).start.1 = .ok () ∧
        (⟨engine', second'⟩ : Installed 1).start.2.rig.peripheral.registers.dmaRequest = 0x1830 ∧
        (⟨engine', direct'⟩ : Installed 1).start.2.rig.peripheral.registers.dmaRequest = 0x3030 :=
  ⟨_, _, rfl, _, _, _, rfl, rfl, rfl, rfl, rfl, rfl⟩

end Installed

end SerialAudio
