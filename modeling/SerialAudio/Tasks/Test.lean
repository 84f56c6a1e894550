import SerialAudio.Tasks.Check
import SerialAudio.Tasks.Summary
/-!
# Running the tests

The tests are run in stages, and the first stage that fails ends the task. Each of the two switches
of the task *leaves stages out*: `unit` leaves out all but the unit tests, `integration` all but the
integration tests. So with both switches nothing is left, and nothing is what the task runs then.
-/

namespace SerialAudio

namespace Tasks

/-- One run of the tests. -/
structure Stage where
  /-- What is tested. -/
  label : String
  /-- Which tests the build tool selects. -/
  selector : String
  /-- Whether the tests need the recording parts of the library. -/
  needsRecording : Bool
deriving DecidableEq, Repr

namespace Stage

/-- The unit tests. -/
def unit : Stage := ⟨"unit tests", "--lib", true⟩

/-- The integration tests. -/
def integration : Stage := ⟨"integration tests", "--tests", true⟩

/-- The examples in the documentation. -/
def doc : Stage := ⟨"doc tests", "--doc", false⟩

/-- The packages under test. -/
def packages : List String := ["-p", "platform", "-p", "i2s-audio"]

/-- The arguments of the build tool. -/
def arguments (t : Stage) : List String :=
  ["test", t.selector] ++ packages
    ++ (if t.needsRecording then ["--features", "i2s-audio/std"] else [])

/-- The arguments as a command shows them. -/
def shownArguments (t : Stage) : List String := t.arguments.map Argument.shown

/-- The stages that are left, in order. -/
def selected (unitOnly integrationOnly : Bool) : List Stage :=
  (if integrationOnly then [] else [unit])
    ++ (if unitOnly then [] else [integration])
    ++ (if unitOnly || integrationOnly then [] else [doc])

theorem passable_arguments {unitOnly integrationOnly : Bool} :
    ∀ t ∈ selected unitOnly integrationOnly, t.arguments.all Argument.passable = true := by
  revert unitOnly integrationOnly
  decide

/-- Report that a stage failed. -/
def reportFailed (t : Stage) (r : Response) (s : Session) : Session :=
  let s := s.say .stderr .broken ("  ✗ " ++ t.label ++ " failed") |>.printBlank .stderr
  (Text.lines (Text.ofBytes r.stdout)).foldl
      (fun s line => s.print .stderr ("  " ++ String.ofList line)) s
    |>.print .stderr (String.ofList (Text.ofBytes r.stderr))

/-- Report that a stage passed. -/
def reportPassed (t : Stage) (r : Response) (s : Session) : Session :=
  s.say .stdout .passed
      ("  ✓ " ++ t.label ++ " passed " ++ testSummary (Text.ofBytes r.stdout) ++ " in "
        ++ Text.seconds r.elapsed)
    |>.printBlank .stdout

/-- Run a stage. -/
def run (t : Stage) (s : Session) : Except TaskError Unit × Session :=
  let s := s.say .stdout .announcement ("  Running " ++ t.label ++ "...")
  match s.invoke t.arguments with
  | (.error cause, s) => (.error (.notStarted t.label cause), s)
  | (.ok r, s) =>
    if r.success then (.ok (), t.reportPassed r s)
    else (.error (.failed t.label), t.reportFailed r s)

/-- Run stages until one fails. -/
def runAll : List Stage → Session → Except TaskError Unit × Session
  | [], s => (.ok (), s)
  | t :: ts, s =>
    match t.run s with
    | (.ok (), s) => runAll ts s
    | (.error e, s) => (.error e, s)

end Stage

/-- Run the tests. -/
def runTests (unitOnly integrationOnly : Bool) (s : Session) : Except TaskError Unit × Session :=
  match Stage.runAll (Stage.selected unitOnly integrationOnly) (s.begin "🧪 Running tests...") with
  | (.ok (), s) => (.ok (), s.finish "tests")
  | (.error e, s) => (.error e, s)

end Tasks

end SerialAudio
