import SerialAudio.Proofs.Dma.Requests
/-!
# How long a refusal stands

Starts of a direction are refused from the moment the controller is told so, and nothing that the
controller is asked for afterwards takes that back. One thing does, though, that nobody asks for: a
lane that falls idle forgets everything, and the refusal is part of everything. So a refusal stands
as long as its lane does not fall idle. On a lane that is idle already that is forever, since no
start can make it run, and on a lane that runs it is until the delivery after the next cancel.

## Main results

* `refusing_perform_iff` — a refusal is taken back by falling idle, and by nothing else
* `refusing_after_iff` — whether starts are refused after a history
* `start_refused_iff` — which starts are refused, and which are accepted
* `refusal_forgotten` — a refusal that does not last
-/

namespace SerialAudio

namespace Dma

variable {η ω : Type} {hs : Handlers η ω} {s : Site η ω} {r : Request η} {rs : List (Request η)}
  {d : Direction} {h : η}

/-! ## Falling idle -/

/-- A direction falls idle with a request. -/
def Falls (hs : Handlers η ω) (d : Direction) (s : Site η ω) (r : Request η) : Prop :=
  s.dma.isActive d = true ∧ (r.perform hs s).2.dma.isActive d = false

/-- A direction does not fall idle along requests. -/
def Lasting (hs : Handlers η ω) (d : Direction) : Site η ω → List (Request η) → Prop
  | _, [] => True
  | s, r :: rs => ¬Falls hs d s r ∧ Lasting hs d (r.perform hs s).2 rs

/-- A turn leaves a lane as it was, or clears one that ran. -/
theorem turn_case (l : Lane η) : l.turn.2 = l ∨ l.active = true ∧ l.turn.2 = {} := by
  rw [Lane.turn]
  split
  · rename_i active _
    dsimp only
    split
    · exact .inr ⟨active, rfl⟩
    · exact .inl rfl
  · exact .inl rfl

/-- A lane that does not fall idle keeps its refusal, or the absence of one. -/
theorem refusing_of_not_falls {l m : Lane η} (same : m.refusing = l.refusing)
    (runs : l.active = true → m.active = true) :
    m.refusing = true ↔ l.refusing = true ∧ ¬(l.active = true ∧ m.active = false) := by
  have stays : ¬(l.active = true ∧ m.active = false) := by
    rintro ⟨active, idle⟩
    exact Bool.false_ne_true (idle.symm.trans (runs active))
  rw [same]
  exact (and_iff_left stays).symm

/-- What a request does to the refusal of the lane that it is about. -/
theorem refusing_move_iff (l : Lane η) : (r.move l).refusing = true ↔
    r = .refuse r.direction ∨
      l.refusing = true ∧ ¬(l.active = true ∧ (r.move l).active = false) := by
  cases r with
  | start e h =>
    have runs : l.active = true → (l.start h).active = true := by
      intro active
      rw [Lane.start]
      split
      · exact active
      · rfl
    exact (refusing_of_not_falls Lane.refusing_start runs).trans (or_iff_right (by rintro ⟨⟩)).symm
  | cancel e =>
    have same : l.requestCancel.refusing = l.refusing := by
      rw [Lane.requestCancel]
      split <;> rfl
    exact (refusing_of_not_falls same Lane.active_requestCancel.trans).trans
      (or_iff_right (by rintro ⟨⟩)).symm
  | refuse e => exact ⟨fun _ => .inl rfl, fun _ => rfl⟩
  | complete | completeWith | fail =>
    refine Iff.trans ?_ (or_iff_right (by rintro ⟨⟩)).symm
    rcases turn_case l with same | ⟨active, cleared⟩
    · exact refusing_of_not_falls (congrArg Lane.refusing same) (congrArg Lane.active same).trans
    · show l.turn.2.refusing = true ↔ l.refusing = true ∧ ¬(_ ∧ l.turn.2.active = false)
      rw [cleared]
      exact iff_of_false Bool.false_ne_true fun stands => stands.2 ⟨active, rfl⟩

/-- **A refusal is taken back by falling idle, and by nothing else.** -/
theorem refusing_perform_iff : ((r.perform hs s).2.dma.lane d).refusing = true ↔
    r = .refuse d ∨ (s.dma.lane d).refusing = true ∧ ¬Falls hs d s r := by
  rw [Falls, isActive, isActive, lane_perform]
  by_cases about : d = r.direction
  · subst about
    rw [if_pos rfl]
    exact refusing_move_iff _
  · have other : r ≠ .refuse d := by
      rintro rfl
      exact about rfl
    rw [if_neg about]
    exact (refusing_of_not_falls rfl id).trans (or_iff_right other).symm

/-- A refusal that was spoken in a history and stands at its end. -/
def Stands (hs : Handlers η ω) (d : Direction) (s : Site η ω) (rs : List (Request η)) : Prop :=
  ∃ before later, rs = before ++ .refuse d :: later ∧
    Lasting hs d (s.after hs (before ++ [.refuse d])) later

theorem stands_cons_iff : Stands hs d s (r :: rs) ↔
    r = .refuse d ∧ Lasting hs d (r.perform hs s).2 rs ∨ Stands hs d (r.perform hs s).2 rs := by
  constructor
  · rintro ⟨_ | ⟨first, before⟩, later, cut, lasting⟩
    · cases cut
      exact .inl ⟨rfl, lasting⟩
    · cases cut
      exact .inr ⟨before, later, rfl, lasting⟩
  · rintro (⟨rfl, lasting⟩ | ⟨before, later, rfl, lasting⟩)
    · exact ⟨[], rs, rfl, lasting⟩
    · exact ⟨r :: before, later, rfl, lasting⟩

/-- **Starts are refused after a history exactly if a refusal stands**, one from before it or one
that was spoken in it. -/
theorem refusing_after_iff : ((s.after hs rs).dma.lane d).refusing = true ↔
    (s.dma.lane d).refusing = true ∧ Lasting hs d s rs ∨ Stands hs d s rs := by
  induction rs generalizing s with
  | nil =>
    have none_spoken : ¬Stands hs d s [] := by
      rintro ⟨before, later, cut, -⟩
      exact List.append_ne_nil_of_right_ne_nil _ (List.cons_ne_nil _ _) cut.symm
    exact ⟨fun refusing => .inl ⟨refusing, trivial⟩, fun h => h.elim And.left fun h =>
      absurd h none_spoken⟩
  | cons r rs ih =>
    rw [Site.after_cons, ih, refusing_perform_iff, stands_cons_iff, Lasting, or_and_right, or_assoc,
      and_assoc, or_left_comm]

/-! ## Starts -/

theorem perform_start_of_refusing (hs : Handlers η ω) (h : η)
    (refusing : (s.dma.lane d).refusing = true) :
    ((Request.start d h).perform hs s).1 = .started (.error ⟨d⟩) ∧
      ((Request.start d h).perform hs s).2.dma.lane d = s.dma.lane d := by
  have answer : (s.dma.start d h).1 = .error ⟨d⟩ := by rw [start_eq, if_pos refusing]
  have lane : ((Request.start d h).perform hs s).2.dma.lane d = _ := lane_perform
  exact ⟨congrArg Reply.started answer,
    lane.trans ((if_pos rfl).trans (Lane.start_of_refusing refusing))⟩

theorem perform_start_of_not_refusing (hs : Handlers η ω) (h : η)
    (willing : (s.dma.lane d).refusing = false) :
    ((Request.start d h).perform hs s).1 = .started (.ok ()) ∧
      (((Request.start d h).perform hs s).2.dma.lane d).handler = some h := by
  have answer : (s.dma.start d h).1 = .ok () := by
    rw [start_eq, willing]
    rfl
  have lane : ((Request.start d h).perform hs s).2.dma.lane d = _ := lane_perform
  exact ⟨congrArg Reply.started answer, congrArg Lane.handler
    (lane.trans ((if_pos rfl).trans (Lane.start_of_not_refusing willing)))⟩

/-- **A start is refused exactly while a refusal stands.** On a controller that was never asked for
anything before, and after any history, a start of a direction is refused and registers nobody
exactly if the direction was refused in the history and did not fall idle since. Otherwise the start
is accepted, and its handler is registered. -/
theorem start_refused_iff (hs : Handlers η ω) (slots : Nat) (world : ω) (rs : List (Request η))
    (d : Direction) (h : η) :
    let fresh : Site η ω := Site.fresh slots world
    let s := fresh.after hs rs
    let asked := (Request.start d h).perform hs s
    (asked.1 = .started (.error ⟨d⟩) ∧ asked.2.dma.lane d = s.dma.lane d ↔
        Stands hs d fresh rs) ∧
      (asked.1 = .started (.ok ()) ∧ (asked.2.dma.lane d).handler = some h ↔
        ¬Stands hs d fresh rs) := by
  intro fresh s asked
  have refusing_iff : (s.dma.lane d).refusing = true ↔ Stands hs d fresh rs := by
    have unrefused : (fresh.dma.lane d).refusing = false := by cases d <;> rfl
    rw [refusing_after_iff, unrefused]
    simp
  rw [← refusing_iff]
  cases refusing : (s.dma.lane d).refusing with
  | true =>
    have refused := perform_start_of_refusing hs h refusing
    refine ⟨iff_of_true refused rfl, iff_of_false ?_ (not_not_intro rfl)⟩
    rintro ⟨accepted, -⟩
    exact nomatch refused.1.symm.trans accepted
  | false =>
    have accepted := perform_start_of_not_refusing hs h refusing
    refine ⟨iff_of_false ?_ Bool.false_ne_true, iff_of_true accepted Bool.false_ne_true⟩
    rintro ⟨refused, -⟩
    exact nomatch accepted.1.symm.trans refused

/-- **A refusal that does not last.** A lane that runs is cancelled and its starts are refused. The
next delivery is its last one, and with it the refusal is forgotten: the start after it is accepted
and registers its handler. -/
theorem refusal_forgotten :
    let hs : Handlers Unit Unit := ⟨fun _ _ _ _ => (.untouched [], ())⟩
    let rs : List (Request Unit) :=
      [.start .transmit (), .cancel .transmit, .refuse .transmit, .complete .transmit]
    let asked := (Request.start .transmit ()).perform hs ((Site.fresh 2 ()).after hs rs)
    .refuse .transmit ∈ rs ∧ asked.1 = .started (.ok ()) ∧
      (asked.2.dma.lane .transmit).hasHandler = true :=
  ⟨by decide, rfl, rfl⟩

end Dma

end SerialAudio
