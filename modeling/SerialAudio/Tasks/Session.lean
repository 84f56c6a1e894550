import SerialAudio.Tasks.Argument
import SerialAudio.Text.Elapsed
import SerialAudio.Text.Style
import SerialAudio.Text.Utf8
/-!
# Sessions with the build tool

The development tasks run the build tool and report what it said. The tool is a function from the
number of the run and its arguments to what came of it, so a task is a computation on a `Session`:
the runs so far, the lines printed so far, and the time that passed in the runs.

Only runs that could be started are counted. If the tool is not there at all, or if one of the
arguments cannot be passed, nothing ran.
-/

namespace SerialAudio

namespace Tasks

/-- What came of a run of the build tool. -/
structure Response where
  /-- The exit status. Zero is success. -/
  status : Nat := 0
  /-- What was printed. -/
  stdout : List UInt8 := []
  /-- What was printed as diagnostics. -/
  stderr : List UInt8 := []
  /-- How long it took, in hundredths of a second. -/
  elapsed : Nat := 0
deriving DecidableEq, Repr, Inhabited

/-- Whether a run succeeded. -/
def Response.success (r : Response) : Bool := r.status = 0

/-- A build tool: what comes of the run with a given number and arguments, or why it could not be
started. -/
abbrev BuildTool := Nat → List String → Except String Response

namespace BuildTool

/-- A tool that is not there. -/
def missing : BuildTool := fun _ _ => .error "No such file or directory (os error 2)"

/-- A tool whose runs come out as recorded. A run that is not on record succeeds in silence. -/
def replay (responses : List Response) : BuildTool := fun index _ =>
  .ok ((responses[index]?).getD {})

end BuildTool

/-- The name of the build tool. -/
def buildToolName : String := "cargo"

/-- Where a line is printed. -/
inductive Channel where
  /-- With the results. -/
  | stdout
  /-- With the diagnostics. -/
  | stderr
deriving DecidableEq, Repr

/-- Something that was printed, with a line end behind it. -/
structure Printed where
  /-- Where. -/
  channel : Channel
  /-- What. -/
  text : String
deriving DecidableEq, Repr

/-- What a line says about the task. -/
inductive Tone where
  /-- The task begins. -/
  | heading
  /-- A step begins. -/
  | announcement
  /-- A step passed. -/
  | passed
  /-- The task is through. -/
  | completed
  /-- A step failed, and the task with it. -/
  | broken
  /-- A step failed, and the task goes on. -/
  | doubtful
deriving DecidableEq, Repr

/-- How a tone looks on a terminal. -/
def Tone.style : Tone → Text.Style
  | .heading => { color := .cyan, bold := true }
  | .announcement => { color := .cyan }
  | .passed => { color := .green }
  | .completed => { color := .green, bold := true }
  | .broken => { color := .red, bold := true }
  | .doubtful => { color := .yellow, bold := true }

/-- A task on its way. -/
structure Session where
  /-- The build tool. -/
  tool : BuildTool
  /-- Whether colours are on. -/
  colors : Bool := false
  /-- The arguments of each run so far. -/
  calls : List (List String) := []
  /-- What was printed so far. -/
  printed : List Printed := []
  /-- How much time passed in the runs, in hundredths of a second. -/
  elapsed : Nat := 0

namespace Session

variable (s : Session)

/-- Print a text. -/
def print (channel : Channel) (text : String) : Session :=
  { s with printed := s.printed ++ [⟨channel, text⟩] }

/-- Print a text in a tone. -/
def say (channel : Channel) (tone : Tone) (text : String) : Session :=
  s.print channel (tone.style.paint s.colors text)

/-- Print an empty line. -/
def printBlank (channel : Channel) : Session := s.print channel ""

/-- Run the tool. The arguments are looked at before the tool is. -/
def invoke (arguments : List String) : Except String Response × Session :=
  if arguments.all Argument.passable then
    match s.tool s.calls.length arguments with
    | .error cause => (.error cause, s)
    | .ok r =>
      (.ok r, { s with calls := s.calls ++ [arguments], elapsed := s.elapsed + r.elapsed })
  else (.error Argument.refusal, s)

/-- All that was printed on a channel. -/
def output (channel : Channel) : String :=
  String.join ((s.printed.filter (·.channel = channel)).map (·.text ++ "\n"))

/-- All that was printed on a channel, with times masked. -/
def maskedOutput (channel : Channel) : String :=
  String.ofList (Text.maskElapsed (s.output channel).toList)

/-- Print a heading between empty lines. -/
def begin (title : String) : Session :=
  s.printBlank .stdout |>.say .stdout .heading title |>.printBlank .stdout

/-- Report that a task is through. -/
def finish (what : String) : Session :=
  s.say .stdout .completed ("✓ All " ++ what ++ " completed in " ++ Text.seconds s.elapsed)
    |>.printBlank .stdout

variable {s}

@[simp] theorem calls_print (c : Channel) (t : String) : (s.print c t).calls = s.calls := rfl

@[simp] theorem tool_print (c : Channel) (t : String) : (s.print c t).tool = s.tool := rfl

@[simp] theorem elapsed_print (c : Channel) (t : String) : (s.print c t).elapsed = s.elapsed := rfl

theorem invoke_of_passable {arguments : List String}
    (h : arguments.all Argument.passable = true) :
    s.invoke arguments =
      match s.tool s.calls.length arguments with
      | .error cause => (.error cause, s)
      | .ok r =>
        (.ok r, { s with calls := s.calls ++ [arguments], elapsed := s.elapsed + r.elapsed }) := by
  rw [invoke, if_pos h]

end Session

/-! ## Errors -/

/-- Why a task failed. -/
inductive TaskError where
  /-- A step of the task failed. -/
  | failed (label : String)
  /-- A run could not be started. -/
  | notStarted (what : String) (cause : String)
deriving DecidableEq, Repr

namespace TaskError

/-- The text of an error. -/
def message : TaskError → String
  | failed label => label ++ " failed"
  | notStarted what _ => "Failed to run " ++ what

/-- What lies behind an error. -/
def cause? : TaskError → Option String
  | failed _ => none
  | notStarted _ cause => some cause

/-- The texts of an error and of what lies behind it. -/
def chain (e : TaskError) : List String := e.message :: e.cause?.toList

end TaskError

end Tasks

end SerialAudio
