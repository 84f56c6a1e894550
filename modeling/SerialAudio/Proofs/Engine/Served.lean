import SerialAudio.Proofs.Engine.Start
/-!
# Whom the lanes call

A lane calls whoever is registered with it. A start registers the endpoint of its engine, unless it
is refused; the last delivery after a cancel takes the registration back; nothing else touches it.
So on a controller that an engine has for itself, every turn is one of its endpoint, in whatever
order starts, cancels, refusals and transfers come, and also when the engine is gone.

## Main results

* `Transport.Serves.complete_or` — a turn is nobody's, or the endpoint in use hears of it
* `Served.step`, `Served.after` — no other endpoint comes into use
* `Served.remove` — not even after the engine was removed
-/

namespace SerialAudio

/-! ## Transports with one endpoint in use -/

namespace Transport

variable {n : Nat} {t : Transport n} {i : Fin n} {d : Direction} {x : Transfer}

/-- No lane calls any other endpoint. -/
def Serves (t : Transport n) (i : Fin n) : Prop :=
  ∀ d h, (t.dma.lane d).handler = some h → h = i

theorem serves_of_idle (idle : ∀ d, (t.dma.lane d).Idle) : t.Serves i := by
  intro d h hh
  cases (idle d).handler.symm.trans hh

theorem Serves.refuse (own : t.Serves i) : Serves { t with dma := t.dma.refuse d } i := by
  intro e h hh
  change ((t.dma.refuse d).lane e).handler = some h at hh
  rw [Dma.lane_refuse] at hh
  split at hh <;> exact own e h hh

theorem Serves.complete (own : t.Serves i) : (t.complete d x).2.Serves i := by
  intro e h hh
  rw [dma_complete, Dma.lane_takeTurn] at hh
  split at hh
  · exact own e h (Lane.handler_of_handler_turn hh)
  · exact own e h hh

/-- **A turn is nobody's, and nothing happens, or the endpoint in use hears of it.** -/
theorem Serves.complete_or (own : t.Serves i) (d : Direction) (x : Transfer) :
    t.complete d x = (none, t) ∨
      (t.complete d x).1 = some ((t.endpoint i).complete d x).1 ∧
        (t.complete d x).2.endpoint i = ((t.endpoint i).complete d x).2 := by
  have called : ∀ j, (t.dma.takeTurn d).1 = some j → j = i :=
    fun j hj => own d j (Lane.handler_of_turn hj)
  have still : (t.dma.takeTurn d).1 = none → (t.dma.takeTurn d).2 = t.dma := by
    intro nobody
    rw [Dma.takeTurn] at nobody ⊢
    dsimp only at nobody ⊢
    rw [Lane.turn_of_nobody nobody, Dma.setLane_lane_self]
  rw [Transport.complete]
  rcases ht : t.dma.takeTurn d with ⟨_ | j, dma⟩
  · rw [ht] at still
    obtain rfl := still rfl
    exact .inl rfl
  · rw [ht] at called
    obtain rfl := called j rfl
    exact .inr ⟨rfl, endpoint_setEndpoint_self⟩

end Transport

/-! ## Engines -/

namespace Installed

variable {n : Nat} {s t : Installed n} {d e : Direction} {ds : List Direction} {x : Transfer}
  {a : Act} {acts : List Act}

theorem lane_cancel : s.cancel.lane e =
    if e ∈ s.directions then (s.lane e).requestCancel else s.lane e :=
  Dma.lane_cancelAll

/-- The controller calls the endpoint of the engine and no other one. -/
def Served (s : Installed n) : Prop := s.rig.transport.Serves s.engine.link

/-- Lanes that were asked to start call the endpoint of the engine, or whomever they called. -/
theorem Served.of_started (own : s.Served) (link : t.engine.link = s.engine.link)
    (lane : ∀ d, t.lane d = if d ∈ ds then (s.lane d).start s.engine.link else s.lane d) :
    t.Served := by
  intro d h hh
  change (t.lane d).handler = some h at hh
  rw [lane] at hh
  rw [link]
  split at hh
  · rw [Lane.handler_start] at hh
    split at hh
    · exact own d h hh
    · exact (Option.some.inj hh).symm
  · exact own d h hh

theorem Served.start (own : s.Served) : s.start.2.Served := by
  have ending := start_case s
  generalize s.start.1 = r, s.start.2 = t at ending ⊢
  cases ending with
  | faulted _ => exact own
  | codec _ _ => exact own
  | lane _ _ _ => exact own.of_started rfl fun _ => lane_withLanes
  | ok _ _ _ => exact own.of_started rfl fun _ => lane_withLanes

theorem Served.cancel (own : s.Served) : s.cancel.Served := by
  intro d h hh
  change (s.cancel.lane d).handler = some h at hh
  rw [lane_cancel] at hh
  split at hh
  · rw [Lane.handler_requestCancel] at hh
    exact own d h hh
  · exact own d h hh

theorem Served.refuse (own : s.Served) : (s.refuse d).Served := Transport.Serves.refuse own

theorem Served.complete (own : s.Served) : (s.complete d x).2.Served :=
  Transport.Serves.complete own

/-- **No act brings another endpoint into use.** -/
theorem Served.step (own : s.Served) : (s.step a).2.Served := by
  cases a with
  | start => exact own.start
  | cancel => exact own.cancel
  | refuse d => exact own.refuse
  | finish d buffer => exact own.complete
  | fail d => exact own.complete

theorem Served.after (own : s.Served) : (s.after acts).Served := by
  induction acts generalizing s with
  | nil => exact own
  | cons a acts ih => exact ih own.step

theorem link_step : (s.step a).2.engine.link = s.engine.link := by
  cases a with
  | start =>
    have ending := start_case s
    show s.start.2.engine.link = _
    generalize s.start.1 = r, s.start.2 = t at ending ⊢
    cases ending <;> rfl
  | cancel | refuse | finish | fail => rfl

theorem link_after : (s.after acts).engine.link = s.engine.link := by
  induction acts generalizing s with
  | nil => rfl
  | cons a acts ih => rw [after_cons, ih, link_step]

/-- A rig that an engine was removed from still calls the endpoint of that engine and no other. -/
theorem Served.remove (own : s.Served) : (s.after acts).remove.transport.Serves s.engine.link := by
  have left : (s.after acts).Served := own.after
  rw [Served, link_after] at left
  exact left

/-! ## Where histories begin -/

variable {rig rig' : Rig n} {config : Config} {link : Fin n} {wired : Bool} {engine : Engine n}

theorem served_of_install_eq_ok (built : rig.install config link wired = (.ok engine, rig'))
    (own : rig.transport.Serves link) : (⟨engine, rig'⟩ : Installed n).Served := by
  obtain ⟨rfl, transport, -⟩ := of_install_eq_ok built
  rw [Served, transport]
  exact own

theorem endpoint_of_install_eq_ok (built : rig.install config link wired = (.ok engine, rig')) :
    (⟨engine, rig'⟩ : Installed n).endpoint = rig.transport.endpoint link := by
  obtain ⟨rfl, transport, -⟩ := of_install_eq_ok built
  rw [endpoint, transport]

end Installed

end SerialAudio
