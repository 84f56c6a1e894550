import SerialAudio.Proofs.Engine.Served
/-!
# What is true of every engine

An engine remembers that it was asked to stop, and so does each of its lanes. These memories are
kept by different parts and are written at different times: a start clears them one lane after the
other, a delivery clears that of one lane, and a start that fails half way leaves them as they fall.
`Sound` says what is left of "they agree" in the middle of all that: of an engine that saw no fault,
a lane that runs is about to stop exactly if the engine was asked to.

The exception for engines that saw a fault is needed. If the second lane of a restart is refused,
the first one runs afterwards and is not about to stop, while the engine is still asked to.

## The invariant and the histories

`Built` is where histories begin, and `sound_after` is where the induction over them is done.
Everything else about histories is a statement about one act in a sound state.

## Main results

* `sound_step`, `sound_after` — a sound engine stays sound
* `complete_of_idle`, `complete_of_active` — what a transfer that ends does to a sound engine
-/

namespace SerialAudio

namespace Installed

variable {n : Nat} {s t : Installed n} {d e : Direction} {x : Transfer} {a : Act}
  {acts more : List Act}

/-- The memories of an engine and of its lanes agree, as far as they do between any two acts. -/
structure Sound (s : Installed n) : Prop where
  /-- Each lane is in order. -/
  tidy : ∀ d, (s.lane d).Tidy
  /-- A lane serves this engine or nobody. -/
  own : ∀ {d h}, (s.lane d).handler = some h → h = s.engine.link
  /-- Only directions of the engine run. -/
  used : ∀ {d}, (s.lane d).active = true → d ∈ s.directions
  /-- Without a fault, the lanes that run are those of the last start or of the last cancel. -/
  agrees : s.isFaulted = false → ∀ {d}, (s.lane d).active = true →
    (s.lane d).cancelling = s.engine.cancelRequested

/-! ## Where histories begin -/

/-- Where nothing runs, everybody agrees. -/
theorem sound_of_idle (idle : ∀ d, (s.lane d).Idle) : s.Sound where
  tidy d := (idle d).tidy
  own {d _} hh := nomatch (idle d).handler.symm.trans hh
  used {d} ha := nomatch (idle d).active.symm.trans ha
  agrees _ {d} ha := nomatch (idle d).active.symm.trans ha

theorem Built.sound (h : s.Built) : s.Sound := sound_of_idle h.lane

theorem Sound.served (hs : s.Sound) : s.Served := fun _ _ hh => hs.own hh

/-! ## What keeps an engine sound -/

/-- Nothing but the lanes, the fault and the memory of the engine counts. -/
theorem Sound.congr (hs : s.Sound) (lane : ∀ d, t.lane d = s.lane d)
    (fault : t.isFaulted = false → s.isFaulted = false) (config : t.engine.config = s.engine.config)
    (link : t.engine.link = s.engine.link)
    (cancel : t.engine.cancelRequested = s.engine.cancelRequested) : t.Sound where
  tidy := by
    intro d
    rw [lane]
    exact hs.tidy d
  own := by
    intro d h hh
    rw [lane] at hh
    rw [link]
    exact hs.own hh
  used := by
    intro d ha
    rw [lane] at ha
    rw [directions, config]
    exact hs.used ha
  agrees := by
    intro hf d ha
    rw [lane] at ha ⊢
    rw [cancel]
    exact hs.agrees (fault hf) ha

/-- After a fault nobody asks which lanes are about to stop. -/
theorem isFaulted_trip : s.trip.isFaulted = true := by
  rw [isFaulted, endpoint, trip, Transport.isFaulted_trip, beq_self_eq_true, Bool.or_true]

theorem isFaulted_start_of_error {r} (h : s.start.1 = .error r) : s.start.2.isFaulted = true := by
  have ending := start_case s
  generalize s.start.1 = q, s.start.2 = t at ending h ⊢
  cases ending with
  | faulted seen => exact seen
  | codec _ _ => exact isFaulted_trip
  | lane _ _ _ => exact isFaulted_trip
  | ok _ _ _ => exact nomatch h

/-- Lanes that were started for the engine are as much in order as before. -/
theorem sound_of_withLanes (hs : s.Sound) (link : t.engine.link = s.engine.link)
    (config : t.engine.config = s.engine.config) (ds : List Direction)
    (hds : ∀ d ∈ ds, d ∈ s.directions)
    (lane : ∀ d, t.lane d = if d ∈ ds then (s.lane d).start s.engine.link else s.lane d)
    (agrees : t.isFaulted = false → ∀ {d}, (t.lane d).active = true →
      (t.lane d).cancelling = t.engine.cancelRequested) : t.Sound where
  tidy := by
    intro d
    rw [lane]
    split
    · exact (hs.tidy d).start
    · exact hs.tidy d
  own {d h} hh := hs.served.of_started link lane d h hh
  used := by
    intro d ha
    rw [lane] at ha
    rw [directions, config]
    split at ha
    · exact hds d ‹_›
    · exact hs.used ha
  agrees := agrees

theorem sound_start (hs : s.Sound) : s.start.2.Sound := by
  have ending := start_case s
  generalize s.start.1 = q, s.start.2 = t at ending ⊢
  cases ending with
  | faulted _ => exact hs
  | codec clear _ => exact hs.congr (fun _ => rfl) (fun _ => clear) rfl rfl rfl
  | @lane codec bus d clear taken refused =>
    refine sound_of_withLanes hs rfl rfl (s.before d ++ [d]) ?_ (fun e => lane_withLanes) ?_
    · intro e he
      obtain ⟨later, hd⟩ := directions_eq_before refused.used
      rw [hd]
      rcases List.mem_append.mp he with he | he
      · exact List.mem_append_left _ he
      · exact List.mem_append_right _ (List.mem_singleton.mp he ▸ List.mem_cons_self)
    · intro hf
      exact absurd (hf.symm.trans isFaulted_trip) Bool.false_ne_true
  | @ok codec bus clear taken accepted =>
    refine sound_of_withLanes hs rfl rfl s.directions (fun e he => he)
      (fun e => lane_withLanes) ?_
    intro _ e ha
    have streams := streams_of_accepted taken accepted
    by_cases he : e ∈ s.directions
    · exact (streams.running e he).2
    · rw [streams.others e he] at ha
      exact absurd (hs.used ha) he

theorem active_cancel : (s.cancel.lane e).active = (s.lane e).active := by
  rw [lane_cancel]
  split
  · exact Lane.active_requestCancel
  · rfl

/-- A lane that runs is one of the engine, so it is asked to stop. -/
theorem cancelling_cancel (hs : s.Sound) (ha : (s.lane e).active = true) :
    (s.cancel.lane e).cancelling = true := by
  rw [lane_cancel, if_pos (hs.used ha)]
  exact Lane.cancelling_requestCancel ha

theorem sound_cancel (hs : s.Sound) : s.cancel.Sound where
  tidy := by
    intro d
    rw [lane_cancel]
    split
    · exact (hs.tidy d).requestCancel
    · exact hs.tidy d
  own {d h} hh := hs.served.cancel d h hh
  used := by
    intro d ha
    rw [active_cancel] at ha
    exact hs.used ha
  agrees := by
    intro _ d ha
    rw [active_cancel] at ha
    exact cancelling_cancel hs ha

theorem lane_refuse : (s.refuse d).lane e =
    if e = d then { s.lane e with refusing := true } else s.lane e :=
  Dma.lane_refuse

theorem active_refuse : ((s.refuse d).lane e).active = (s.lane e).active := by
  rw [lane_refuse]
  split <;> rfl

theorem cancelling_refuse : ((s.refuse d).lane e).cancelling = (s.lane e).cancelling := by
  rw [lane_refuse]
  split <;> rfl

theorem handler_refuse : ((s.refuse d).lane e).handler = (s.lane e).handler := by
  rw [lane_refuse]
  split <;> rfl

theorem sound_refuse (hs : s.Sound) : (s.refuse d).Sound where
  tidy := by
    intro e
    rw [lane_refuse]
    split
    · exact (hs.tidy e).refuse
    · exact hs.tidy e
  own {e h} hh := hs.served.refuse e h hh
  used := by
    intro e ha
    rw [active_refuse] at ha
    exact hs.used ha
  agrees := by
    intro hf e ha
    rw [active_refuse] at ha
    rw [cancelling_refuse]
    exact hs.agrees hf ha

/-! ## Transfers that end -/

theorem lane_complete :
    (s.complete d x).2.lane e = if e = d then (s.lane e).turn.2 else s.lane e := by
  have turned : (s.complete d x).2.rig.transport.dma = _ := Transport.dma_complete
  rw [lane, turned]
  exact Dma.lane_takeTurn

/-- Without a turn nothing happens. -/
theorem complete_of_idle (ha : (s.lane d).active = false) : s.complete d x = (none, s) := by
  rw [complete, Transport.complete, Dma.takeTurn_of_not_active ha]

/-- A lane that is not about to stop goes on after a delivery. -/
theorem lane_complete_of_not_cancelling (hs : s.Sound) (hc : (s.lane d).cancelling = false) :
    (s.complete d x).2.lane e = s.lane e := by
  rw [lane_complete]
  split
  · subst e
    cases ha : (s.lane d).active with
    | false => exact congrArg Prod.snd (Lane.turn_of_not_active ha)
    | true =>
      obtain ⟨h, -, ht⟩ := (hs.tidy d).turn_of_active ha
      rw [ht, hc]
      rfl
  · rfl

/-- One that is falls idle. -/
theorem lane_complete_of_cancelling (hs : s.Sound) (hc : (s.lane d).cancelling = true) :
    (s.complete d x).2.lane d = {} := by
  obtain ⟨h, -, ht⟩ := (hs.tidy d).turn_of_active ((hs.tidy d).active_of_cancelling hc)
  rw [lane_complete, if_pos rfl, ht, hc]
  rfl

/-- The engine after a turn of a lane that runs. -/
def served (s : Installed n) (d : Direction) (x : Transfer) : Installed n :=
  { s with
    rig.transport := { s.rig.transport with
      dma := (s.rig.transport.dma.takeTurn d).2 }.setEndpoint s.engine.link
        (s.endpoint.complete d x).2 }

/-- A turn is one of the endpoint of the engine. -/
theorem complete_of_active (hs : s.Sound) (ha : (s.lane d).active = true) :
    s.complete d x = (some (s.endpoint.complete d x).1, s.served d x) := by
  obtain ⟨h, hh, ht⟩ := (hs.tidy d).turn_of_active ha
  have hturn : (s.rig.transport.dma.takeTurn d).1 = some s.engine.link := by
    rw [Dma.takeTurn]
    exact (congrArg Prod.fst ht).trans (congrArg some (hs.own hh))
  rw [complete, Transport.complete, served, endpoint]
  rcases hd : s.rig.transport.dma.takeTurn d with ⟨i, dma⟩
  rw [hd] at hturn
  cases hturn
  rfl

theorem endpoint_served : (s.served d x).endpoint = (s.endpoint.complete d x).2 :=
  Transport.endpoint_setEndpoint_self

/-- Only a transfer that broke down is a fault, and only if it was somebody's turn. -/
theorem isFaulted_complete_finished (hs : s.Sound) (d : Direction) (buffer : List UInt32) :
    (s.complete d (.finished buffer)).2.isFaulted = s.isFaulted := by
  cases ha : (s.lane d).active with
  | false => rw [complete_of_idle ha]
  | true =>
    rw [complete_of_active hs ha, isFaulted, endpoint_served]
    exact Endpoint.isFaulted_complete_finished ..

theorem isFaulted_complete_failed (hs : s.Sound) (d : Direction) (buffer : List UInt32) :
    (s.complete d (.failed buffer)).2.isFaulted = (s.isFaulted || (s.lane d).active) := by
  cases ha : (s.lane d).active with
  | false => rw [complete_of_idle ha, Bool.or_false]
  | true =>
    rw [complete_of_active hs ha, isFaulted, endpoint_served, Endpoint.complete_failed,
      Bool.or_true]
    rfl

theorem clear_of_clear_complete (hs : s.Sound) (hf : (s.complete d x).2.isFaulted = false) :
    s.isFaulted = false := by
  cases x with
  | finished buffer =>
    rw [isFaulted_complete_finished hs] at hf
    exact hf
  | failed buffer =>
    rw [isFaulted_complete_failed hs] at hf
    exact (Bool.or_eq_false_iff.mp hf).1

theorem lane_complete_or (hs : s.Sound) (d : Direction) (x : Transfer) (e : Direction) :
    (s.complete d x).2.lane e = s.lane e ∨ (s.complete d x).2.lane e = {} := by
  cases hc : (s.lane d).cancelling with
  | false => exact .inl (lane_complete_of_not_cancelling hs hc)
  | true =>
    by_cases hed : e = d
    · subst hed
      exact .inr (lane_complete_of_cancelling hs hc)
    · exact .inl (lane_complete.trans (if_neg hed))

theorem sound_complete (hs : s.Sound) : (s.complete d x).2.Sound where
  tidy := by
    intro e
    rw [lane_complete]
    split
    · exact (hs.tidy e).turn
    · exact hs.tidy e
  own {e h} hh := hs.served.complete e h hh
  used := by
    intro e ha
    rcases lane_complete_or hs d x e with ht | ht <;> rw [ht] at ha
    · exact hs.used ha
    · exact nomatch ha
  agrees := by
    intro hf e ha
    rcases lane_complete_or hs d x e with ht | ht <;> rw [ht] at ha ⊢
    · exact hs.agrees (clear_of_clear_complete hs hf) ha
    · exact nomatch ha

/-! ## Histories -/

theorem sound_step (hs : s.Sound) : (s.step a).2.Sound := by
  cases a with
  | start => exact sound_start hs
  | cancel => exact sound_cancel hs
  | refuse d => exact sound_refuse hs
  | finish d buffer => exact sound_complete hs
  | fail d => exact sound_complete hs

theorem sound_after (hs : s.Sound) : (s.after acts).Sound := by
  induction acts generalizing s with
  | nil => exact hs
  | cons a acts ih =>
    rw [after_cons]
    exact ih (sound_step hs)

end Installed

end SerialAudio
