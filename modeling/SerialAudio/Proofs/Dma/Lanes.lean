import SerialAudio.Dma
/-!
# What the controller does to its lanes

Every operation of the controller changes at most one lane, and what it makes of that lane depends
on nothing but the lane. So each operation has one equation here, of the form "the lane of `e`
afterwards is this if `e` is the direction, and what it was otherwise", and whoever needs to know
what a sequence of operations leaves behind uses those equations instead of the operations.

## Refused starts

A start that is refused is not an operation that does something else; it is one that does nothing
to the lane. `Lane.start` says so, and with it the lanes after *any* list of starts, refused ones
included, are known without going through the list: starting twice is starting once, and a lane's
refusals are not changed by starting it.

## Main results

* `lane_start`, `lane_cancel`, `lane_refuse`, `lane_takeTurn` — one equation for each operation
* `lane_startAll`, `lane_cancelAll` — the same for lists of directions
* `Lane.Tidy` and its `start`, `requestCancel`, `refuse` and `turn` — the flags of a lane agree
-/

namespace SerialAudio

variable {η : Type}

namespace Lane

variable {l : Lane η} {h : η}

/-! ## Lanes -/

/-- Nothing is kept of the lane but whether its starts are refused. -/
structure Idle (l : Lane η) : Prop where
  /-- There is nobody to call. -/
  handler : l.handler = none
  /-- The lane does not run. -/
  active : l.active = false
  /-- The lane is not about to stop. -/
  cancelling : l.cancelling = false

/-- The flags of the lane agree with one another. A turn that is nobody's is only possible where
they do not, since `turn` looks at the handler and at the flag. -/
structure Tidy (l : Lane η) : Prop where
  /-- The lane runs exactly if there is somebody to call. -/
  hasHandler : l.hasHandler = l.active
  /-- A lane that is about to stop still runs. -/
  active_of_cancelling : l.cancelling = true → l.active = true

theorem Idle.tidy (hl : l.Idle) : l.Tidy :=
  ⟨by rw [hasHandler, hl.handler, hl.active, Option.isSome_none],
    fun hc => absurd (hl.cancelling.symm.trans hc) Bool.false_ne_true⟩

/-- What a start that was asked for makes of the lane. -/
def start (l : Lane η) (h : η) : Lane η := if l.refusing then l else l.run h

theorem start_of_refusing (hr : l.refusing = true) : l.start h = l := if_pos hr

theorem start_of_not_refusing (hr : l.refusing = false) : l.start h = l.run h := by
  rw [start, hr]
  rfl

@[simp] theorem refusing_start : (l.start h).refusing = l.refusing := by
  rw [start]
  split <;> rfl

theorem handler_start : (l.start h).handler = if l.refusing then l.handler else some h := by
  rw [start]
  split <;> rfl

@[simp] theorem start_start : (l.start h).start h = l.start h := by
  cases hr : l.refusing with
  | true => rw [start_of_refusing hr, start_of_refusing hr]
  | false =>
    rw [start_of_not_refusing hr]
    exact start_of_not_refusing hr

@[simp] theorem requestCancel_requestCancel :
    l.requestCancel.requestCancel = l.requestCancel := by
  cases ha : l.active <;> simp [requestCancel, ha]

@[simp] theorem active_requestCancel : l.requestCancel.active = l.active := by
  rw [requestCancel]
  split <;> rfl

@[simp] theorem handler_requestCancel : l.requestCancel.handler = l.handler := by
  rw [requestCancel]
  split <;> rfl

theorem cancelling_requestCancel (ha : l.active = true) : l.requestCancel.cancelling = true := by
  rw [requestCancel, if_pos ha]

/-- A turn goes to whoever is registered. -/
theorem handler_of_turn (ht : l.turn.1 = some h) : l.handler = some h := by
  rw [turn] at ht
  split at ht
  · rename_i hh
    exact hh.trans ht
  · cases ht

/-- A turn that is nobody's leaves the lane as it is. -/
theorem turn_of_nobody (ht : l.turn.1 = none) : l.turn.2 = l := by
  rw [turn] at ht ⊢
  split
  · rename_i ha hh
    rw [ha, hh] at ht
    cases ht
  · rfl

/-- A turn registers nobody. -/
theorem handler_of_handler_turn (ht : l.turn.2.handler = some h) : l.handler = some h := by
  rw [turn] at ht
  split at ht
  · dsimp only at ht
    split at ht
    · cases ht
    · exact ht
  · exact ht

/-! ## Flags that agree -/

/-- Whom the turn of a lane that runs goes to. -/
theorem Tidy.exists_handler (hl : l.Tidy) (ha : l.active = true) : ∃ h, l.handler = some h :=
  Option.isSome_iff_exists.mp (hl.hasHandler.trans ha)

theorem Tidy.turn_of_active (hl : l.Tidy) (ha : l.active = true) :
    ∃ h, l.handler = some h ∧ l.turn = (some h, if l.cancelling then {} else l) := by
  obtain ⟨h, hh⟩ := hl.exists_handler ha
  refine ⟨h, hh, ?_⟩
  rw [turn, ha, hh]

theorem Tidy.start (hl : l.Tidy) : (l.start h).Tidy := by
  rw [Lane.start]
  split
  · exact hl
  · exact ⟨rfl, fun _ => rfl⟩

theorem Tidy.requestCancel (hl : l.Tidy) : l.requestCancel.Tidy := by
  refine ⟨?_, fun hc => ?_⟩
  · rw [Lane.hasHandler, handler_requestCancel, active_requestCancel]
    exact hl.hasHandler
  · rw [active_requestCancel]
    by_cases ha : l.active = true
    · exact ha
    · rw [Lane.requestCancel, if_neg ha] at hc
      exact hl.active_of_cancelling hc

theorem Tidy.refuse (hl : l.Tidy) : Tidy { l with refusing := true } :=
  ⟨hl.hasHandler, hl.active_of_cancelling⟩

theorem Tidy.turn (hl : l.Tidy) : l.turn.2.Tidy := by
  cases ha : l.active with
  | false =>
    rw [turn_of_not_active ha]
    exact hl
  | true =>
    obtain ⟨h, -, ht⟩ := hl.turn_of_active ha
    rw [ht]
    dsimp only
    split
    · exact ⟨rfl, fun hc => hc⟩
    · exact hl

end Lane

namespace Dma

variable {c : Dma η} {d e : Direction} {ds : List Direction} {h : η} {l : Lane η}

/-! ## One operation -/

theorem lane_setLane : (c.setLane d l).lane e = if e = d then l else c.lane e := by
  split
  · subst e
    exact lane_setLane_self
  · exact lane_setLane_of_ne ‹_›

theorem setLane_comm {m : Lane η} (ne : d ≠ e) :
    (c.setLane d l).setLane e m = (c.setLane e m).setLane d l := by
  cases d <;> cases e <;> first | rfl | exact absurd rfl ne

theorem lane_start : (c.start d h).2.lane e = if e = d then (c.lane e).start h else c.lane e := by
  rw [start]
  split <;> rename_i hr
  · -- the record has no part in the lanes, so a refused start is read off the lane alone
    change c.lane e = _
    split
    · subst e
      exact (Lane.start_of_refusing hr).symm
    · rfl
  · rw [lane_setLane]
    split
    · subst e
      exact (Lane.start_of_not_refusing (eq_false_of_ne_true hr)).symm
    · rfl

/-- A start is refused exactly if the lane says so. -/
theorem start_eq : (c.start d h).1 = if (c.lane d).refusing then .error ⟨d⟩ else .ok () := by
  rw [start]
  change (if (c.lane d).refusing = true then _ else _ : Except Exhausted Unit × Dma η).1 = _
  split <;> rfl

theorem lane_cancel :
    (c.cancel d).lane e = if e = d then (c.lane e).requestCancel else c.lane e := by
  rw [cancel, lane_setLane]
  split
  · subst e
    rfl
  · rfl

theorem lane_refuse :
    (c.refuse d).lane e = if e = d then { c.lane e with refusing := true } else c.lane e := by
  rw [refuse, lane_setLane]
  split
  · subst e
    rfl
  · rfl

theorem lane_takeTurn :
    (c.takeTurn d).2.lane e = if e = d then (c.lane e).turn.2 else c.lane e := by
  rw [takeTurn, lane_setLane]
  split
  · subst e
    rfl
  · rfl

/-- Without a turn nothing happens at all. -/
theorem takeTurn_of_not_active (ha : c.isActive d = false) : c.takeTurn d = (none, c) := by
  rw [takeTurn, Lane.turn_of_not_active ha]
  exact congrArg _ setLane_lane_self

/-! ## Lists of directions -/

/-- Ask for the start of several directions, whatever comes of each. -/
def startAll (c : Dma η) (h : η) (ds : List Direction) : Dma η :=
  ds.foldl (fun c d => (c.start d h).2) c

@[simp] theorem startAll_nil : c.startAll h [] = c := rfl

@[simp] theorem startAll_cons : c.startAll h (d :: ds) = (c.start d h).2.startAll h ds := rfl

@[simp] theorem starts_startAll : (c.startAll h ds).starts = c.starts ++ ds := by
  induction ds generalizing c with
  | nil => simp
  | cons d ds ih => rw [startAll_cons, ih, starts_start, List.append_assoc, List.singleton_append]

@[simp] theorem cancels_startAll : (c.startAll h ds).cancels = c.cancels := by
  induction ds generalizing c with
  | nil => rfl
  | cons d ds ih => rw [startAll_cons, ih, cancels_start]

/-- The order does not matter to the lanes, and neither does asking twice. -/
theorem lane_startAll :
    (c.startAll h ds).lane e = if e ∈ ds then (c.lane e).start h else c.lane e := by
  induction ds generalizing c with
  | nil => rfl
  | cons d ds ih =>
    rw [startAll_cons, ih, lane_start]
    by_cases hd : e = d
    · subst hd
      simp
    · simp [hd]

@[simp] theorem starts_cancelAll : (ds.foldl Dma.cancel c).starts = c.starts := by
  induction ds generalizing c with
  | nil => rfl
  | cons d ds ih => rw [List.foldl_cons, ih, starts_cancel]

@[simp] theorem cancels_cancelAll : (ds.foldl Dma.cancel c).cancels = c.cancels ++ ds := by
  induction ds generalizing c with
  | nil => simp
  | cons d ds ih =>
    rw [List.foldl_cons, ih, cancels_cancel, List.append_assoc, List.singleton_append]

theorem lane_cancelAll :
    (ds.foldl Dma.cancel c).lane e =
      if e ∈ ds then (c.lane e).requestCancel else c.lane e := by
  induction ds generalizing c with
  | nil => rfl
  | cons d ds ih =>
    rw [List.foldl_cons, ih, lane_cancel]
    by_cases hd : e = d
    · subst hd
      simp
    · simp [hd]

end Dma

end SerialAudio
