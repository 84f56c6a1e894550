import SerialAudio.Proofs.Cut
import SerialAudio.Tasks.CommandLine
/-!
# What the test task answers for

The two switches of the test task are read in two ways. Whoever sets them *asks for* stages: `unit`
for the unit tests, `integration` for the integration tests, both for both, and neither for all
there is. The task *leaves out* stages instead, for each switch the ones that the other one asks
for. The two readings agree as long as one switch is off. With both on everything is asked for that
a switch can ask for, and nothing is left.

The run itself is the same in both readings. The stages are attempted in order, each with the number
that the build tool has reached by then, down to the first that fails, and the session is longer by
what those attempts ran, printed and took. So a run over no stages passes at once, and says so.

## Main results

* `Stage.run_eq`, `Stage.runAll_eq` — one stage, and stages in order, as the attempts that are made
* `Stage.selected_eq` — what is left is what was asked for, unless both switches are on
* `accountable_endWith` — a task that makes the attempts at some stages answers for them
* `accountable_runTests_iff` — the task answers for what it was asked exactly if a switch is off
-/

namespace SerialAudio

namespace Tasks

/-! ## Printing -/

namespace Session

variable {s : Session} {ps qs : List Printed}

/-- Print lines that are known by their channels. -/
def printAll (s : Session) (ps : List Printed) : Session := { s with printed := s.printed ++ ps }

theorem print_eq (c : Channel) (x : String) : s.print c x = s.printAll [⟨c, x⟩] := rfl

theorem say_eq (c : Channel) (tone : Tone) (x : String) :
    s.say c tone x = s.printAll [⟨c, tone.style.paint s.colors x⟩] := rfl

theorem printBlank_eq (c : Channel) : s.printBlank c = s.printAll [⟨c, ""⟩] := rfl

@[simp] theorem printAll_printAll : (s.printAll ps).printAll qs = s.printAll (ps ++ qs) := by
  rw [printAll, printAll, printAll, List.append_assoc]

@[simp] theorem tool_printAll : (s.printAll ps).tool = s.tool := rfl

@[simp] theorem calls_printAll : (s.printAll ps).calls = s.calls := rfl

end Session

/-! ## Attempts -/

/-- An attempt to run a stage. -/
structure Attempt where
  /-- The stage. -/
  stage : Stage
  /-- What came of it, or why it could not be started. -/
  answer : Except String Response

namespace Attempt

variable {a : Attempt}

/-- Whether the stage was run and succeeded. -/
def passed (a : Attempt) : Bool :=
  match a.answer with
  | .error _ => false
  | .ok r => r.success

/-- What the task fails with, if the attempt ends it. -/
def failure? (a : Attempt) : Option TaskError :=
  match a.answer with
  | .error cause => some (.notStarted a.stage.label cause)
  | .ok r => if r.success then none else some (.failed a.stage.label)

/-- Whether the attempt ends the task. -/
def failed (a : Attempt) : Bool := a.failure?.isSome

/-- The runs of the build tool: one, unless it could not be started. -/
def calls (a : Attempt) : List (List String) :=
  match a.answer with
  | .error _ => []
  | .ok _ => [a.stage.arguments]

/-- How long it took. -/
def elapsed (a : Attempt) : Nat :=
  match a.answer with
  | .error _ => 0
  | .ok r => r.elapsed

/-- The line of a stage that passed, with the summary of its own output. -/
def passedLine (a : Attempt) (r : Response) : String :=
  "  ✓ " ++ a.stage.label ++ " passed " ++ testSummary (Text.ofBytes r.stdout) ++ " in "
    ++ Text.seconds r.elapsed

/-- What is printed about a run that is over. -/
def verdict (colors : Bool) (a : Attempt) (r : Response) : List Printed :=
  if r.success then
    [⟨.stdout, Tone.passed.style.paint colors (a.passedLine r)⟩, ⟨.stdout, ""⟩]
  else
    [⟨.stderr, Tone.broken.style.paint colors ("  ✗ " ++ a.stage.label ++ " failed")⟩,
        ⟨.stderr, ""⟩]
      ++ (Text.lines (Text.ofBytes r.stdout)).map (⟨.stderr, "  " ++ String.ofList ·⟩)
      ++ [⟨.stderr, String.ofList (Text.ofBytes r.stderr)⟩]

/-- What is printed about an attempt. -/
def report (colors : Bool) (a : Attempt) : List Printed :=
  ⟨.stdout, Tone.announcement.style.paint colors ("  Running " ++ a.stage.label ++ "...")⟩
    :: match a.answer with
      | .error _ => []
      | .ok r => a.verdict colors r

theorem failed_eq_not_passed : a.failed = !a.passed := by
  rw [failed, failure?, passed]
  cases a.answer with
  | error cause => rfl
  | ok r =>
    dsimp only
    cases r.success with
    | false => rfl
    | true => rfl

theorem failure?_eq_none_iff : a.failure? = none ↔ a.passed = true := by
  rw [← Option.not_isSome_iff_eq_none, ← failed, failed_eq_not_passed]
  simp

theorem calls_of_passed (h : a.passed = true) : a.calls = [a.stage.arguments] := by
  rw [passed] at h
  rw [calls]
  cases ha : a.answer with
  | error cause =>
    rw [ha] at h
    cases h
  | ok r => rfl

end Attempt

namespace Session

variable {s : Session} {t : Stage} {ts : List Stage} {a : Attempt} {as : List Attempt}

/-- The attempt to run a stage next. -/
def attempt (s : Session) (t : Stage) : Attempt := ⟨t, s.tool s.calls.length t.arguments⟩

/-- Attempts to run stages in turn, as if none of them failed. -/
def attempts (s : Session) (ts : List Stage) : List Attempt :=
  ts.mapIdx fun i t => ⟨t, s.tool (s.calls.length + i) t.arguments⟩

/-- The session after attempts. -/
def after (s : Session) (as : List Attempt) : Session :=
  { s with
    calls := s.calls ++ as.flatMap Attempt.calls
    printed := s.printed ++ as.flatMap (Attempt.report s.colors)
    elapsed := as.foldl (fun elapsed a => elapsed + a.elapsed) s.elapsed }

/-- The attempts that are made: down to the first that fails. -/
def made (s : Session) (ts : List Stage) : List Attempt := upTo Attempt.failed (s.attempts ts)

@[simp] theorem after_nil : s.after [] = s := by simp [after]

theorem after_cons : s.after (a :: as) = (s.after [a]).after as := by
  simp [after]

@[simp] theorem map_stage_attempts : (s.attempts ts).map Attempt.stage = ts := by
  refine List.ext_getElem (by simp [attempts]) fun i hi hi' => ?_
  simp [attempts]

/-- A stage that passed has run, so that the tool answers the next one with the next number. -/
theorem attempts_cons (h : (s.attempt t).passed = true) :
    s.attempts (t :: ts) = s.attempt t :: (s.after [s.attempt t]).attempts ts := by
  have later : ∀ i, s.calls.length + (i + 1) = (s.after [s.attempt t]).calls.length + i := by
    intro i
    rw [after, List.flatMap_singleton, Attempt.calls_of_passed h, List.length_append,
      List.length_singleton]
    omega
  rw [attempts, List.mapIdx_cons]
  simp only [later]
  rfl

theorem made_cons_of_passed (h : (s.attempt t).passed = true) :
    s.made (t :: ts) = s.attempt t :: (s.after [s.attempt t]).made ts := by
  have kept : (s.attempt t).failed = false := by rw [Attempt.failed_eq_not_passed, h]; rfl
  rw [made, attempts_cons h, upTo_cons_of_neg kept]
  rfl

theorem made_cons_of_failed (h : (s.attempt t).failed = true) :
    s.made (t :: ts) = [s.attempt t] := by
  rw [made, attempts, List.mapIdx_cons]
  exact upTo_cons_of_pos h

/-- If no attempt fails, then none is missing. -/
theorem map_stage_made (h : ∀ a ∈ s.made ts, a.passed = true) :
    (s.made ts).map Attempt.stage = ts := by
  have none_made : (s.made ts).findSome? Attempt.failure? = none :=
    List.findSome?_eq_none_iff.mpr fun a ha => Attempt.failure?_eq_none_iff.mpr (h a ha)
  have none_fails : (s.attempts ts).findSome? Attempt.failure? = none :=
    (findSome?_upTo fun _ => rfl).symm.trans none_made
  have kept : s.made ts = s.attempts ts := upTo_eq_self fun a ha => by
    rw [Attempt.failed, List.findSome?_eq_none_iff.mp none_fails a ha]
    rfl
  rw [kept, map_stage_attempts]

end Session

/-! ## Running the stages -/

namespace Stage

variable {s : Session} {t : Stage} {ts : List Stage}

theorem reportPassed_eq {r : Response} (hr : r.success = true) :
    t.reportPassed r s = s.printAll ((⟨t, .ok r⟩ : Attempt).verdict s.colors r) := by
  rw [reportPassed, Session.say_eq, Session.printBlank_eq, Session.printAll_printAll,
    Attempt.verdict, if_pos hr]
  rfl

theorem reportFailed_eq {r : Response} (hr : r.success = false) :
    t.reportFailed r s = s.printAll ((⟨t, .ok r⟩ : Attempt).verdict s.colors r) := by
  have quoted : ∀ (ls : List (List Char)) (s : Session),
      ls.foldl (fun s line => s.print .stderr ("  " ++ String.ofList line)) s =
        s.printAll (ls.map (⟨.stderr, "  " ++ String.ofList ·⟩)) := by
    intro ls
    induction ls with
    | nil =>
      intro s
      simp [Session.printAll]
    | cons l ls ih =>
      intro s
      rw [List.foldl_cons, ih, Session.print_eq, Session.printAll_printAll]
      rfl
  rw [reportFailed, quoted, Attempt.verdict, if_neg (by simp [hr])]
  simp only [Session.print_eq, Session.say_eq, Session.printBlank_eq, Session.printAll_printAll]
  rfl

/-- **A stage is one attempt, and what the attempt fails with is the answer.** -/
theorem run_eq (h : t.arguments.all Argument.passable = true) :
    t.run s = ((s.attempt t).failure?.elim (.ok ()) .error, s.after [s.attempt t]) := by
  rw [run, Session.invoke_of_passable h, Session.attempt, Session.say_eq]
  simp only [Session.tool_printAll, Session.calls_printAll]
  cases s.tool s.calls.length t.arguments with
  | error cause => simp [Session.after, Session.printAll, Attempt.failure?, Attempt.calls,
      Attempt.elapsed, Attempt.report]
  | ok r =>
    dsimp only
    cases hr : r.success with
    | true =>
      rw [if_pos rfl, reportPassed_eq hr]
      simp [Session.after, Session.printAll, Attempt.failure?, Attempt.calls, Attempt.elapsed,
        Attempt.report, hr]
    | false =>
      rw [if_neg Bool.false_ne_true, reportFailed_eq hr]
      simp [Session.after, Session.printAll, Attempt.failure?, Attempt.calls, Attempt.elapsed,
        Attempt.report, hr]

/-- **Stages in order are the attempts that are made.** -/
theorem runAll_eq (h : ∀ t ∈ ts, t.arguments.all Argument.passable = true) :
    runAll ts s = (((s.made ts).findSome? Attempt.failure?).elim (.ok ()) .error,
      s.after (s.made ts)) := by
  induction ts generalizing s with
  | nil =>
    rw [runAll]
    exact congrArg (Prod.mk _) Session.after_nil.symm
  | cons t ts ih =>
    rw [runAll, run_eq (h t List.mem_cons_self)]
    cases hf : (s.attempt t).failure? with
    | none =>
      rw [Session.made_cons_of_passed (Attempt.failure?_eq_none_iff.mp hf), List.findSome?_cons, hf]
      exact (ih fun u hu => h u (List.mem_cons_of_mem t hu)).trans
        (congrArg (Prod.mk _) Session.after_cons.symm)
    | some e =>
      have failed : (s.attempt t).failed = true := by rw [Attempt.failed, hf]; rfl
      rw [Session.made_cons_of_failed failed, List.findSome?_cons, hf]
      rfl

/-- What stages are asked for. -/
def asked : Bool → Bool → List Stage
  | false, false => [unit, integration, doc]
  | true, false => [unit]
  | false, true => [integration]
  | true, true => [unit, integration]

/-- **What is left is what was asked for, unless both switches are on.** -/
theorem selected_eq {unitOnly integrationOnly : Bool} : selected unitOnly integrationOnly =
    if unitOnly = true ∧ integrationOnly = true then [] else asked unitOnly integrationOnly := by
  revert unitOnly integrationOnly
  decide

theorem asked_ne_nil {unitOnly integrationOnly : Bool} : asked unitOnly integrationOnly ≠ [] := by
  revert unitOnly integrationOnly
  decide

end Stage

/-! ## The task -/

/-- The task with attempts between its heading and its last line. The last line is not printed if an
attempt failed. -/
def Session.endWith (s : Session) (as : List Attempt) : Except TaskError Unit × Session :=
  let t := (s.begin "🧪 Running tests...").after as
  match as.findSome? Attempt.failure? with
  | none => (.ok (), t.finish "tests")
  | some e => (.error e, t)

/-- What the task answers for. It was asked for some stages, on a session, and this is how it
ended. -/
structure Accountable (asked : List Stage) (s : Session)
    (ended : Except TaskError Unit × Session) : Prop where
  /-- The stages are run in order, down to the first that fails. -/
  calls : ended.2.calls = s.calls ++ (s.made asked).flatMap Attempt.calls
  /-- The task succeeds if all stages were attempted and passed, and only then. -/
  succeeds_iff : ended.1 = .ok () ↔
    (s.made asked).map Attempt.stage = asked ∧ ∀ a ∈ s.made asked, a.passed = true
  /-- The task does not succeed without a run. -/
  invoked : ended.1 = .ok () → ended.2.calls ≠ s.calls
  /-- Each attempt is reported in turn, and with the summary of its own output if it passed. -/
  reported : (s.made asked).flatMap (Attempt.report s.colors) <:+: ended.2.printed

variable {unitOnly integrationOnly : Bool} {s : Session} {ts : List Stage} {as : List Attempt}

theorem endWith_eq_ok_iff : (s.endWith as).1 = .ok () ↔ ∀ a ∈ as, a.passed = true := by
  have none_fails : as.findSome? Attempt.failure? = none ↔ ∀ a ∈ as, a.passed = true := by
    simp only [List.findSome?_eq_none_iff, Attempt.failure?_eq_none_iff]
  rw [← none_fails, Session.endWith]
  cases as.findSome? Attempt.failure? with
  | none => exact ⟨fun _ => rfl, fun _ => rfl⟩
  | some e => exact ⟨nofun, nofun⟩

theorem calls_endWith : (s.endWith as).2.calls = s.calls ++ as.flatMap Attempt.calls := by
  rw [Session.endWith]
  cases as.findSome? Attempt.failure? with
  | none => rfl
  | some e => rfl

theorem reported_endWith :
    as.flatMap (Attempt.report s.colors) <:+: (s.endWith as).2.printed := by
  rw [Session.endWith]
  cases as.findSome? Attempt.failure? with
  | none => exact ⟨_, _, (List.append_assoc _ _ _).symm⟩
  | some e => exact (List.suffix_append _ _).isInfix

/-- A task that makes the attempts at some stages answers for them. -/
theorem accountable_endWith (some_stage : ts ≠ []) :
    Accountable ts s (s.endWith (s.made ts)) where
  calls := calls_endWith
  succeeds_iff := by
    rw [endWith_eq_ok_iff]
    exact ⟨fun h => ⟨Session.map_stage_made h, h⟩, fun h => h.2⟩
  invoked := by
    intro success same
    have passed := endWith_eq_ok_iff.mp success
    have stages := Session.map_stage_made passed
    cases hm : s.made ts with
    | nil =>
      rw [hm] at stages
      exact some_stage stages.symm
    | cons a as =>
      rw [calls_endWith, hm, List.flatMap_cons,
        Attempt.calls_of_passed (passed a (hm ▸ List.mem_cons_self))] at same
      simp at same
  reported := reported_endWith

/-- **The task is the attempts that are made at the stages that are left.** -/
theorem runTests_eq : runTests unitOnly integrationOnly s =
    s.endWith (s.made (Stage.selected unitOnly integrationOnly)) := by
  have made_begin : (s.begin "🧪 Running tests...").made (Stage.selected unitOnly integrationOnly) =
      s.made (Stage.selected unitOnly integrationOnly) := rfl
  rw [runTests, Stage.runAll_eq Stage.passable_arguments, made_begin, Session.endWith]
  cases (s.made (Stage.selected unitOnly integrationOnly)).findSome? Attempt.failure? with
  | none => rfl
  | some e => rfl

/-- The task answers for what it was asked for as long as a switch is off. -/
theorem accountable_runTests (off : ¬(unitOnly = true ∧ integrationOnly = true)) :
    Accountable (Stage.asked unitOnly integrationOnly) s (runTests unitOnly integrationOnly s) := by
  rw [runTests_eq, Stage.selected_eq, if_neg off]
  exact accountable_endWith Stage.asked_ne_nil

/-- With both switches on there is nothing between the heading and the last line. -/
theorem runTests_both : runTests true true s =
    (.ok (), (s.begin "🧪 Running tests...").finish "tests") := rfl

theorem status_run_test_eq_zero_iff : ((Invocation.test unitOnly integrationOnly).run s).1 = 0 ↔
    (runTests unitOnly integrationOnly s).1 = .ok () := by
  rw [Invocation.run]
  obtain ⟨answer, t⟩ := runTests unitOnly integrationOnly s
  cases answer with
  | ok u => exact ⟨fun _ => rfl, fun _ => rfl⟩
  | error e => exact ⟨nofun, nofun⟩

/-- **The task answers for the stages that it is asked for exactly if a switch is off.** With both
switches on it succeeds and ran nothing, and with one off it never does. Success is what the exit
status says. -/
theorem accountable_runTests_iff (unitOnly integrationOnly : Bool) (s : Session) :
    (Accountable (Stage.asked unitOnly integrationOnly) s (runTests unitOnly integrationOnly s) ↔
        ¬(unitOnly = true ∧ integrationOnly = true)) ∧
      ((runTests unitOnly integrationOnly s).1 = .ok () ∧
          (runTests unitOnly integrationOnly s).2.calls = s.calls ↔
        unitOnly = true ∧ integrationOnly = true) ∧
      (((Invocation.test unitOnly integrationOnly).run s).1 = 0 ↔
        (runTests unitOnly integrationOnly s).1 = .ok ()) := by
  by_cases both : unitOnly = true ∧ integrationOnly = true
  · obtain ⟨rfl, rfl⟩ := both
    rw [runTests_both]
    refine ⟨iff_of_false ?_ (not_not_intro ⟨rfl, rfl⟩), iff_of_true ⟨rfl, rfl⟩ ⟨rfl, rfl⟩,
      status_run_test_eq_zero_iff⟩
    intro h
    exact h.invoked rfl rfl
  · have answers := accountable_runTests (s := s) both
    refine ⟨iff_of_true answers both, iff_of_false ?_ both, status_run_test_eq_zero_iff⟩
    rintro ⟨success, same⟩
    exact answers.invoked success same

/-- Every stage would fail, and the task succeeds without a look at them. -/
theorem runTests_both_unaccountable :
    let s : Session := { tool := fun _ _ => .ok { status := 101 } }
    ((Invocation.test true true).run s).1 = 0 ∧
      (runTests true true s).1 = .ok () ∧ (runTests true true s).2.calls = [] ∧
      (runTests true true s).2.printed =
        [⟨.stdout, ""⟩, ⟨.stdout, "🧪 Running tests..."⟩, ⟨.stdout, ""⟩,
          ⟨.stdout, "✓ All tests completed in 0.00s"⟩, ⟨.stdout, ""⟩] ∧
      ¬Accountable (Stage.asked true true) s (runTests true true s) := by
  refine ⟨rfl, rfl, rfl, by decide, ?_⟩
  intro h
  exact h.invoked rfl rfl

end Tasks

end SerialAudio
