import SerialAudio.Proofs.Engine.Hearing
/-!
# Building again after a fault

An engine that saw a fault refuses to start, and the advice is to remove it and to build another
one. Whether that helps is not for the engine to say. The latch belongs to the endpoint, which
outlives the engine, and building an engine does not touch it: another engine over the same endpoint
begins with whatever was reported to that endpoint before, and one over an endpoint of its own
begins without.

What was reported is read off the transcripts, and removing the engine is no end to it. The lanes go
on running, so a transfer that breaks down afterwards is a fault that the next engine begins with.

## Main results

* `Endpoint.Hears.isFaulted_iff` — a latch is tripped by what is reported to it
* `phase_of_install_eq_ok` — the phase that an engine begins in
* `phase_rebuilt` — the phase that an engine begins in over an endpoint that served another one
-/

namespace SerialAudio

namespace Endpoint

variable {e e' : Endpoint} {x : Act × Outcome} {transcript : List (Act × Outcome)}

/-- What is reported is a fault, and nothing else is. -/
theorem isFaulted_hear {a : Act} {o : Outcome} :
    (e.hear (a, o)).isFaulted = true ↔ e.isFaulted = true ∨ Reports a o := by
  unfold hear
  split <;> rename_i heard
  · cases heard
    exact ⟨.inl, fun h => h.resolve_right nofun⟩
  · rename_i cause other
    cases heard
    refine iff_of_true rfl (.inr ?_)
    cases cause with
    | faulted => exact absurd rfl other
    | codec family address => exact .codec
    | dma d => exact .lane
  · cases heard
    rw [isFaulted_complete_finished]
    exact ⟨.inl, fun h => h.resolve_right nofun⟩
  · cases heard
    rw [complete_failed]
    exact iff_of_true rfl (.inr .transfer)
  · rename_i notStart _
    refine ⟨.inl, fun h => h.resolve_right fun reported => ?_⟩
    cases reported with
    | codec => exact notStart _ rfl
    | lane => exact notStart _ rfl
    | transfer => exact heard _ _ rfl

/-- **A latch is tripped by what is reported, at any time, and by nothing else.** -/
theorem Hears.isFaulted_iff (heard : e.Hears transcript e') :
    e'.isFaulted = true ↔ e.isFaulted = true ∨ ∃ x ∈ transcript, Reports x.1 x.2 := by
  induction heard with
  | nil => exact ⟨.inl, fun h => h.resolve_right fun ⟨_, hx, _⟩ => List.not_mem_nil hx⟩
  | cons _ _ ih =>
    rw [ih, isFaulted_hear, or_assoc]
    simp only [List.mem_cons, exists_eq_or_imp]

end Endpoint

namespace Installed

variable {n m : Nat} {rig rig' : Rig n} {config : Config} {link : Fin n} {wired : Bool}
  {engine : Engine n}

/-- **The phase that an engine begins in** is decided by its endpoint. -/
theorem phase_of_install_eq_ok (built : rig.install config link wired = (.ok engine, rig'))
    (idle : ∀ d, (rig.transport.dma.lane d).Idle) :
    (⟨engine, rig'⟩ : Installed n).phase =
      if (rig.transport.endpoint link).isFaulted then .faulted else .armed := by
  have begun := endpoint_of_install_eq_ok built
  obtain ⟨rfl, transport, -⟩ := of_install_eq_ok built
  have rests : (⟨{ config, link, wired }, rig'⟩ : Installed n).isActive = false := by
    refine List.any_eq_false.mpr fun d _ runs => ?_
    rw [transport] at runs
    exact Bool.false_ne_true ((idle d).active.symm.trans runs)
  rw [phase, rests, isFaulted, begun]
  rfl

/-- A start is refused for a fault before exactly if there was one. -/
theorem start_eq_faulted_iff {s : Installed n} :
    s.start.1 = .error .faulted ↔ s.isFaulted = true := by
  constructor
  · intro refused
    refine Bool.not_eq_false _ |>.mp fun clear => ?_
    exact start_ne_faulted clear refused
  · intro seen
    rw [start_of_isFaulted seen]

/-- **An engine over an endpoint that served another one** begins armed, and its first start is not
refused for a fault, exactly if no fault was ever reported to that endpoint: neither before the
engine that served it was built, nor by that engine, nor by a transfer that broke down after it was
removed. Otherwise it begins faulted, its start is refused for that, and nothing happens to it. It
makes no difference which rig it is built on, as long as nothing runs there. -/
theorem phase_rebuilt {second second' : Rig m} {config' : Config} {link' : Fin m} {wired' : Bool}
    {engine' : Engine m} (built : rig.install config link wired = (.ok engine, rig'))
    (own : rig.transport.Serves link) (acts later : List Act)
    (idle : ∀ d, (second.transport.dma.lane d).Idle)
    (same : second.transport.endpoint link' =
      (((⟨engine, rig'⟩ : Installed n).after acts).remove.after later).transport.endpoint link)
    (rebuilt : second.install config' link' wired' = (.ok engine', second')) :
    let s : Installed n := ⟨engine, rig'⟩
    let whole := s.transcript acts ++ (s.after acts).remove.transcript later
    let seen := (rig.transport.endpoint link).isFaulted = true ∨ ∃ x ∈ whole, Reports x.1 x.2
    let again : Installed m := ⟨engine', second'⟩
    (again.phase = .armed ↔ ¬seen) ∧ (again.start.1 = .error .faulted ↔ seen) ∧
      (seen → again.phase = .faulted ∧ again.start = (.error .faulted, again)) := by
  intro s whole seen again
  have served : s.Served := served_of_install_eq_ok built own
  have begun : s.endpoint = rig.transport.endpoint link := endpoint_of_install_eq_ok built
  have hlink : s.engine.link = link := congrArg Engine.link (of_install_eq_ok built).1
  have heard : Endpoint.Hears _ whole _ := (hears_life served acts later).2
  rw [begun, hlink, ← same] at heard
  have fault : again.isFaulted = true ↔ seen := by
    rw [isFaulted, endpoint_of_install_eq_ok rebuilt]
    exact heard.isFaulted_iff
  have phase : again.phase = if again.isFaulted then .faulted else .armed := by
    rw [isFaulted, endpoint_of_install_eq_ok rebuilt]
    exact phase_of_install_eq_ok rebuilt idle
  refine ⟨?_, start_eq_faulted_iff.trans fault, fun h => ⟨?_, start_of_isFaulted (fault.mpr h)⟩⟩
  · rw [phase, ← fault]
    cases again.isFaulted <;> decide
  · rw [phase, if_pos (fault.mpr h)]

/-- An engine that drained makes room for another one, even if a transfer is broken down on its idle
lane after it was removed. -/
theorem phase_rebuilt_drained :
    let s := alone .playback .probe none
    let acts : List Act := [.start, .cancel, .finish .transmit [0]]
    let left := (s.after acts).remove.after [.fail .transmit]
    (Rig.bare none).transport.Serves 0 ∧
      (Rig.bare none).install s.engine.config 0 true = (.ok s.engine, s.rig) ∧
      (∀ d, (left.transport.dma.lane d).Idle) ∧
      ∃ rig', left.install s.engine.config 0 true = (.ok s.engine, rig') ∧
        (⟨s.engine, rig'⟩ : Installed 1).phase = .armed := by
  intro s acts left
  have own : (Rig.bare none).transport.Serves 0 := Transport.serves_of_idle Rig.fresh_bare.idle
  have built : (Rig.bare none).install s.engine.config 0 true = (.ok s.engine, s.rig) :=
    install_of_following rfl
  have idle : ∀ d, (left.transport.dma.lane d).Idle := fun d => by
    cases d <;> exact ⟨rfl, rfl, rfl⟩
  have rebuilt : left.install s.engine.config 0 true = (.ok s.engine, _) := install_of_following rfl
  have whole : s.transcript acts ++ (s.after acts).remove.transcript [.fail .transmit] =
      [(.start, .started (.ok ())), (.cancel, .done),
        (.finish .transmit [0], .delivered (some ⟨1, [0]⟩)),
        (.fail .transmit, .delivered none)] := rfl
  refine ⟨own, built, idle, _, rebuilt,
    (phase_rebuilt built own acts [.fail .transmit] idle rfl rebuilt).1.mpr ?_⟩
  rintro (before | ⟨x, hx, reported⟩)
  · cases before
  · rw [whole] at hx
    simp only [List.mem_cons, List.not_mem_nil, or_false] at hx
    rcases hx with rfl | rfl | rfl | rfl <;> cases reported

/-- **Building again over the same endpoint does not clear a fault.** An engine plays, is cancelled,
and its last transfer breaks down. It is removed, nothing runs any more, and another engine is built
where it was: it begins faulted, and its first start is refused for that. -/
theorem faulted_rebuilt :
    let s := alone .playback .probe none
    let left := (s.after [.start, .cancel, .fail .transmit]).remove
    s.Built ∧ (∀ d, (left.transport.dma.lane d).Idle) ∧
      ∃ rig', left.install s.engine.config 0 true = (.ok s.engine, rig') ∧
        (⟨s.engine, rig'⟩ : Installed 1).phase = .faulted ∧
        (⟨s.engine, rig'⟩ : Installed 1).start.1 = .error .faulted := by
  intro s left
  have idle : ∀ d, (left.transport.dma.lane d).Idle := fun d => by
    cases d <;> exact ⟨rfl, rfl, rfl⟩
  exact ⟨built_alone, idle, _, install_of_following rfl, rfl, rfl⟩

end Installed

end SerialAudio
