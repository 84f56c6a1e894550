import SerialAudio.Peripheral.Program
import SerialAudio.Proofs.Peripheral.Pairing
/-!
# The log tells the whole story

A log is an account of a peripheral if nothing but the log is needed to know what the peripheral
became. That is not a matter of course: an access changes a register and appends an event in two
places, a read-modify-write logs a word that was computed from a register, and a counter of guards
that stops at zero forgets a release that a log remembers.

All of it follows from what *one* event does. An access either leaves no trace, or it is the event
that it logs, and `undergo` says what that is, for the registers, the guards and the log at once.
The account is kept by every event, and so it is kept by every list of accesses.

A program is such a list, once its sessions are written out: a session is its body between an
acquisition and a release, and nothing else. What is then true at every place of the list is true at
every moment of the program, also inside of its sessions.

That a session gives back what it took needs its body to be `Level`: it ends with the guards with
which it began, and on its way it never falls below them. Sessions are level because their bodies
are, so it is enough that nobody takes or gives back a guard by hand.

## Main results

* `perform_eq` — what an access does is what its event does
* `Accounted.afterAccesses` — the account is kept
* `run_eq`, `runAll_eq` — a program is the list of its accesses
* `level_of_handsOff` — sessions that nobody meddles with are level
* `accounted_runAll` — the log of any program, at every moment of it
-/

namespace SerialAudio

/-! ## One event -/

/-- The guards that are held after an event, from those before it. -/
def Event.guards (held : Nat) : Event → Nat
  | .busEnter => held + 1
  | .busExit => held - 1
  | _ => held

/-- What an event does to a peripheral. -/
def Peripheral.undergo (p : Peripheral) (e : Event) : Peripheral where
  sourceHz := p.sourceHz
  registers := Event.redo p.registers e
  depth := Event.guards p.depth e
  log := p.log ++ [e]

namespace Access

/-- The event of an access, if it leaves a trace. -/
def event? : Access → Peripheral → Option Event
  | .read _, _ => none
  | .write r v, _ => some (.write r v)
  | .modify r f, p => some (.write r (f (p.read r)))
  | .enter, _ => some .busEnter
  | .exit, _ => some .busExit
  | .delayNs ns, _ => some (.delayUs (ns / 1000))
  | .delayUs us, _ => some (.delayUs us)
  | .route n f, _ => some (.pin n f)
  | .startClock d, _ => some (.clockStart d)
  | .stopClock, _ => some .clockStop

/-- **What an access does is what its event does.** -/
theorem perform_eq (a : Access) (p : Peripheral) :
    (a.perform p).2 = (a.event? p).elim p p.undergo := by
  cases a <;> rfl

/-- Whether an access leaves the guards to the sessions. -/
def handsOff : Access → Bool
  | .enter => false
  | .exit => false
  | _ => true

theorem depth_perform_of_handsOff {a : Access} (h : a.handsOff = true) (p : Peripheral) :
    (a.perform p).2.depth = p.depth := by
  cases a with
  | enter => exact nomatch h
  | exit => exact nomatch h
  | read r | write r v | modify r f | delayNs ns | delayUs us | route n f | startClock d
  | stopClock => rfl

end Access

namespace Peripheral

variable {found : RegisterFile} {p : Peripheral} {a : Access} {as bs done later : List Access}
  {e : Event}

/-! ## Accesses in turn -/

/-- The peripheral after accesses. -/
def afterAccesses (p : Peripheral) (as : List Access) : Peripheral :=
  as.foldl (fun p a => (a.perform p).2) p

@[simp] theorem afterAccesses_nil : p.afterAccesses [] = p := rfl

@[simp] theorem afterAccesses_cons :
    p.afterAccesses (a :: as) = (a.perform p).2.afterAccesses as := rfl

@[simp] theorem afterAccesses_append :
    p.afterAccesses (as ++ bs) = (p.afterAccesses as).afterAccesses bs :=
  List.foldl_append

/-! ### The log grows -/

theorem log_prefix_perform (a : Access) (p : Peripheral) : p.log <+: (a.perform p).2.log := by
  rw [Access.perform_eq]
  cases a.event? p with
  | none => exact List.prefix_rfl
  | some e => exact List.prefix_append p.log [e]

theorem log_prefix_afterAccesses : p.log <+: (p.afterAccesses as).log := by
  induction as generalizing p with
  | nil => exact List.prefix_rfl
  | cons a as ih => exact (log_prefix_perform a p).trans ih

/-- What was logged at a moment stays where it is. -/
theorem log_prefix_of_prefix (h : done <+: later) :
    (p.afterAccesses done).log <+: (p.afterAccesses later).log := by
  obtain ⟨rest, rfl⟩ := h
  rw [afterAccesses_append]
  exact log_prefix_afterAccesses

/-! ### The account is kept -/

theorem Accounted.undergo (h : Accounted found p) (e : Event) : Accounted found (p.undergo e) where
  registers := by
    show Event.redo p.registers e = Event.replay found (p.log ++ [e])
    rw [Event.replay_append, ← h.registers, Event.replay_singleton]
  depth := by
    show Event.guards p.depth e = (Event.unreleased (p.log ++ [e])).length
    rw [Event.unreleased_concat, h.depth]
    cases e with
    | busEnter => rfl
    | busExit => exact List.length_tail.symm
    | write r v | delayUs us | pin n f | clockStart d | clockStop => rfl

theorem Accounted.perform (h : Accounted found p) (a : Access) :
    Accounted found (a.perform p).2 := by
  rw [Access.perform_eq]
  cases a.event? p with
  | none => exact h
  | some e => exact h.undergo e

/-- **The account is kept.** -/
theorem Accounted.afterAccesses (h : Accounted found p) (as : List Access) :
    Accounted found (p.afterAccesses as) := by
  induction as generalizing p with
  | nil => exact h
  | cons a as ih => exact ih (h.perform a)

/-- A peripheral to which nothing happened yet has nothing to account for. -/
theorem accounted_of_new {hz : UInt32} :
    Accounted found { sourceHz := hz, registers := found } := ⟨rfl, rfl⟩

/-! ## Levels of guards -/

/-- Accesses that end with the guards with which they began, and never fall below them. -/
structure Level (as : List Access) : Prop where
  /-- The end. -/
  settles : ∀ p : Peripheral, (p.afterAccesses as).depth = p.depth
  /-- The way. -/
  above : ∀ (p : Peripheral) (done : List Access), done <+: as →
    p.depth ≤ (p.afterAccesses done).depth

/-- A prefix of two lists in turn ends in the first or in the second. -/
theorem prefix_append_case (h : done <+: as ++ bs) :
    done <+: as ∨ ∃ more, more <+: bs ∧ done = as ++ more := by
  obtain ⟨rest, split⟩ := h
  rcases List.append_eq_append_iff.mp split with ⟨missing, rfl, -⟩ | ⟨more, rfl, rfl⟩
  · exact .inl (List.prefix_append done missing)
  · exact .inr ⟨more, List.prefix_append more rest, rfl⟩

theorem level_nil : Level [] where
  settles _ := rfl
  above p done h := by
    rw [List.prefix_nil.mp h]
    exact Nat.le_refl _

theorem level_single (h : a.handsOff = true) : Level [a] where
  settles := a.depth_perform_of_handsOff h
  above p done hd := by
    rcases List.prefix_cons_iff.mp hd with rfl | ⟨rest, rfl, hrest⟩
    · exact Nat.le_refl _
    · rw [List.prefix_nil.mp hrest]
      exact Nat.le_of_eq (a.depth_perform_of_handsOff h p).symm

theorem Level.append (first : Level as) (second : Level bs) : Level (as ++ bs) where
  settles p := by rw [afterAccesses_append, second.settles, first.settles]
  above p done h := by
    rcases prefix_append_case h with inside | ⟨more, beyond, rfl⟩
    · exact first.above p done inside
    · calc p.depth = (p.afterAccesses as).depth := (first.settles p).symm
        _ ≤ ((p.afterAccesses as).afterAccesses more).depth := second.above _ more beyond
        _ = (p.afterAccesses (as ++ more)).depth := by rw [afterAccesses_append]

/-- With the guard taken, there is always one guard more. -/
theorem Level.held (level : Level as) (p : Peripheral) (h : done <+: as) :
    p.depth < (p.enter.afterAccesses done).depth :=
  level.above p.enter done h

theorem depth_guarded : (p.afterAccesses (.enter :: (as ++ [.exit]))).depth =
    (p.enter.afterAccesses as).depth - 1 := by
  rw [afterAccesses_cons, afterAccesses_append]
  rfl

/-- **What is level stays level if it is guarded.** -/
theorem Level.guarded (level : Level as) : Level (.enter :: (as ++ [.exit])) where
  settles p := by
    rw [depth_guarded, level.settles]
    rfl
  above p done h := by
    rcases List.prefix_cons_iff.mp h with rfl | ⟨inside, rfl, begun⟩
    · exact Nat.le_refl _
    · rcases List.prefix_concat_iff.mp begun with rfl | unfinished
      · rw [depth_guarded, level.settles]
        exact Nat.le_refl _
      · exact Nat.le_of_lt (level.held p unfinished)

end Peripheral

/-! ## Programs -/

namespace Program

open Peripheral

mutual

/-- The accesses that a program makes, in order. -/
def accesses : Program Access → List Access
  | .step a => [a]
  | .session body => .enter :: (accessesAll body ++ [.exit])

/-- The accesses that programs make one after the other. -/
def accessesAll : List (Program Access) → List Access
  | [] => []
  | c :: cs => accesses c ++ accessesAll cs

end

mutual

/-- Whether a program leaves the guards to its sessions. -/
def handsOff : Program Access → Bool
  | .step a => a.handsOff
  | .session body => handsOffAll body

/-- Whether programs leave the guards to their sessions. -/
def handsOffAll : List (Program Access) → Bool
  | [] => true
  | c :: cs => handsOff c && handsOffAll cs

end

mutual

/-- **A program is the list of its accesses.** -/
theorem run_eq (c : Program Access) (p : Peripheral) :
    (run Access.perform c p).2 = p.afterAccesses (accesses c) := by
  cases c with
  | step a => rfl
  | session body =>
    rw [run_session, accesses, afterAccesses_cons, afterAccesses_append, runAll_eq body]
    rfl

theorem runAll_eq (cs : List (Program Access)) (p : Peripheral) :
    (runAll Access.perform cs p).2 = p.afterAccesses (accessesAll cs) := by
  cases cs with
  | nil => rfl
  | cons c cs => rw [runAll_cons, accessesAll, afterAccesses_append, runAll_eq cs, run_eq c]

end

mutual

/-- **Sessions that nobody meddles with are level.** -/
theorem level_of_handsOff (c : Program Access) (h : handsOff c = true) : Level (accesses c) := by
  cases c with
  | step a =>
    rw [handsOff] at h
    exact level_single h
  | session body =>
    rw [handsOff] at h
    rw [accesses]
    exact (level_of_handsOffAll body h).guarded

theorem level_of_handsOffAll (cs : List (Program Access)) (h : handsOffAll cs = true) :
    Level (accessesAll cs) := by
  cases cs with
  | nil => exact level_nil
  | cons c cs =>
    rw [handsOffAll, Bool.and_eq_true] at h
    rw [accessesAll]
    exact (level_of_handsOff c h.1).append (level_of_handsOffAll cs h.2)

end

/-- The bus is held at every moment of a session that nobody meddles with. -/
theorem busFree_of_handsOff {body : List (Program Access)} (h : handsOffAll body = true)
    (p : Peripheral) {done : List Access} (hd : done <+: accessesAll body) :
    (p.enter.afterAccesses done).busFree = false := by
  have held := (level_of_handsOffAll body h).held p hd
  exact decide_eq_false (Nat.ne_zero_of_lt held)

/-- **The log tells the whole story.** Whatever is found in the registers and whatever program is
run, a program is the list of its accesses, and at every moment of it: replaying the log over what
was found gives the registers; each release can be paired with the nearest open acquisition before
it in exactly one way, and as many acquisitions as that leaves open are the guards that are held, as
a machine word counts them too while there are fewer than 2^64 events; and the log is a beginning of
every later one. A session in which nobody takes or gives back a guard by hand leaves the guards as
it finds them, anywhere and however deep it is nested, and the bus is not free at any moment of
it. -/
theorem accounted_runAll (found : RegisterFile) (hz : UInt32) (cs : List (Program Access)) :
    let p : Peripheral := { sourceHz := hz, registers := found }
    (runAll Access.perform cs p).2 = p.afterAccesses (accessesAll cs) ∧
      (∀ done, done <+: accessesAll cs →
        let q := p.afterAccesses done
        q.registers = Event.replay found q.log ∧
          (∃! partner, Event.Pairs q.log partner) ∧
          (∀ partner, Event.Pairs q.log partner →
            q.depth = (Event.openPlaces q.log partner q.log.length).length) ∧
          (q.log.length < UInt64.size → (Event.guardWord q.log).toNat = q.depth) ∧
          ∀ later, done <+: later → later <+: accessesAll cs →
            q.log <+: (p.afterAccesses later).log) ∧
      ∀ body, handsOffAll body = true → ∀ q : Peripheral,
        (run Access.perform (.session body) q).2.depth = q.depth ∧
          ∀ done, done <+: accessesAll body → (q.enter.afterAccesses done).busFree = false := by
  intro p
  refine ⟨runAll_eq cs p, fun done _ => ?_, fun body untouched q => ⟨?_, fun done => ?_⟩⟩
  · intro q
    have account : Accounted found q := accounted_of_new.afterAccesses done
    refine ⟨account.registers, Event.existsUnique_pairs q.log, fun partner pairs => ?_,
      fun few => ?_, fun later hl _ => log_prefix_of_prefix hl⟩
    · rw [account.depth, Event.length_openPlaces pairs]
    · rw [account.depth, Event.toNat_guardWord few]
  · rw [run_eq]
    exact (level_of_handsOff (.session body) untouched).settles q
  · exact busFree_of_handsOff untouched q

/-- A stray release, and a session with an acquisition too many: the release of the session is
paired with that acquisition, and the one of the session is left open. -/
theorem accounted_runAll_unbalanced :
    let inner : List (Program Access) := [.step (.modify .controlStatus (· ||| 4))]
    let cs : List (Program Access) :=
      [.step .exit, .session [.step .enter, .session inner, .step .exit, .step .enter]]
    let p : Peripheral := { registers := { controlStatus := 0x80000001 } }
    let q := (runAll Access.perform cs p).2
    q.log.length = 9 ∧ Event.Pairs q.log (Event.pairing q.log) ∧
      q.registers.controlStatus = 0x80000005 ∧
      q.depth = 1 ∧ (Event.guardWord q.log).toNat = 1 ∧
      Event.openPlaces q.log (Event.pairing q.log) 9 = [1] ∧
      (run Access.perform (.session inner) q).2.depth = 1 := by
  intro inner cs p q
  obtain ⟨ran, moments, sessions⟩ :=
    accounted_runAll { controlStatus := 0x80000001 } Peripheral.defaultSourceHz cs
  have last : q = p.afterAccesses (accessesAll cs) := ran
  obtain ⟨registers, -, depth, word, -⟩ := moments (accessesAll cs) List.prefix_rfl
  rw [← last] at registers depth word
  have pairs : Event.Pairs q.log (Event.pairing q.log) := Event.pairs_iff.mpr rfl
  have left : Event.openPlaces q.log (Event.pairing q.log) q.log.length = [1] := by decide
  have held : q.depth = 1 := by rw [depth _ pairs, left]; rfl
  refine ⟨by decide, pairs, ?_, held, ?_, left, ?_⟩
  · rw [registers]
    decide
  · rw [word (by decide), held]
  · rw [(sessions inner rfl q).1, held]

end Program

end SerialAudio
