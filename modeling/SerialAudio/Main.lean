import SerialAudio.Tasks.CommandLine
import SerialAudio.Tasks.Recording
/-!
# The command

The command runs a development task against a record of the build tool's runs, which it reads from
its standard input, and prints what the task prints. A request for help, for the version, or for
nothing that makes sense needs no record and does not wait for one.
-/

namespace SerialAudio

namespace Tasks

/-- Whether an invocation runs the build tool. -/
def Invocation.needsTool : Invocation → Bool
  | .check => true
  | .test .. => true
  | _ => false

/-- All of the standard input. -/
partial def readAll (input : IO.FS.Stream) (read : String) : IO String := do
  let line ← input.getLine
  if line.isEmpty then return read else readAll input (read ++ line)

/-- Print a line where it belongs. -/
def Printed.emit (p : Printed) : IO Unit :=
  match p.channel with
  | .stdout => IO.println p.text
  | .stderr => IO.eprintln p.text

/-- Run an invocation with a build tool. -/
def runWith (invocation : Invocation) (tool : BuildTool) : IO UInt32 := do
  let (status, s) := invocation.run { tool }
  s.printed.forM Printed.emit
  return status

end Tasks

end SerialAudio

open SerialAudio.Tasks in
/-- Run the command. -/
def main (arguments : List String) : IO UInt32 := do
  let invocation := Invocation.ofArguments arguments
  if invocation.needsTool then
    match Recording.tool? (← readAll (← IO.getStdin) "").toList with
    | some tool => runWith invocation tool
    | none => do
      IO.eprintln "Error: the record of the build tool's runs cannot be read"
      return 1
  else runWith invocation .missing
