import SerialAudio.Tasks.Session
/-!
# Checking that everything builds

The task goes through a list of checks. A check that fails either ends the task or is only
complained about, and which of the two is part of the check.
-/

namespace SerialAudio

namespace Tasks

/-- What a failed check means for the task. -/
inductive Severity where
  /-- The task fails. -/
  | abort
  /-- The task goes on. -/
  | warn
deriving DecidableEq, Repr

/-- One run of the build tool and what to make of it. -/
structure Check where
  /-- What is checked. -/
  label : String
  /-- The arguments of the build tool. -/
  arguments : List String
  /-- What a failure means. -/
  severity : Severity
  /-- What to do about a failure. -/
  advice : Option String := none
deriving DecidableEq, Repr

namespace Check

/-- The machine that the link is made for. -/
def hardwareTarget : String := "aarch64-unknown-none"

/-- The checks, in order. -/
def all : List Check := [
  { label := "engine on hardware target (" ++ hardwareTarget ++ ")"
    arguments :=
      ["check", "-p", "i2s-audio", "--target", hardwareTarget, "--features", "defmt"]
    severity := .abort },
  { label := "engine on host"
    arguments := ["check", "-p", "i2s-audio", "--features", "std,tracing"]
    severity := .abort },
  { label := "platform crate (no_std)"
    arguments := ["check", "-p", "platform", "--target", hardwareTarget, "--no-default-features"]
    severity := .abort },
  { label := "clippy lints"
    arguments := ["clippy", "--workspace", "--all-targets", "--", "-D", "warnings"]
    severity := .warn },
  { label := "code formatting"
    arguments := ["fmt", "--all", "--check"]
    severity := .warn
    advice := some "     Run 'cargo fmt --all' to fix" }]

/-- Report that a check passed. -/
def reportPassed (c : Check) (r : Response) (s : Session) : Session :=
  s.say .stdout .passed ("  ✓ " ++ c.label ++ " passed in " ++ Text.seconds r.elapsed)
    |>.printBlank .stdout

/-- Report what the build tool complained about. -/
def reportTrouble (r : Response) (tone : Tone) (title : String) (s : Session) : Session :=
  s.say .stderr tone title
    |>.printBlank .stderr
    |>.print .stderr (String.ofList (Text.ofBytes r.stderr))

/-- Report that a check failed and the task goes on. -/
def reportDoubtful (c : Check) (r : Response) (s : Session) : Session :=
  let s := reportTrouble r .doubtful ("  ⚠ " ++ c.label ++ " reported problems") s
    |>.printBlank .stdout
  c.advice.elim s (s.print .stderr ·)

/-- Do a check. -/
def run (c : Check) (s : Session) : Except TaskError Unit × Session :=
  let s := s.say .stdout .announcement ("  Checking " ++ c.label ++ "...")
  match s.invoke c.arguments with
  | (.error cause, s) =>
    (.error (.notStarted (" ".intercalate (buildToolName :: c.arguments)) cause), s)
  | (.ok r, s) =>
    if r.success then (.ok (), c.reportPassed r s)
    else
      match c.severity with
      | .abort =>
        (.error (.failed c.label), reportTrouble r .broken ("  ✗ " ++ c.label ++ " failed") s)
      | .warn => (.ok (), c.reportDoubtful r s)

/-- Do checks until one ends the task. -/
def runAll : List Check → Session → Except TaskError Unit × Session
  | [], s => (.ok (), s)
  | c :: cs, s =>
    match c.run s with
    | (.ok (), s) => runAll cs s
    | (.error e, s) => (.error e, s)

end Check

/-- Check that everything builds. -/
def runChecks (s : Session) : Except TaskError Unit × Session :=
  match Check.runAll Check.all (s.begin "🔍 Checking engine builds...") with
  | (.ok (), s) => (.ok (), s.finish "checks")
  | (.error e, s) => (.error e, s)

end Tasks

end SerialAudio
