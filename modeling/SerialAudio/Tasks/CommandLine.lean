import SerialAudio.Tasks.Test
/-!
# The command line

The tool takes a subcommand: `check`, `test` with its two switches, or `help`. Arguments are read
from left to right, and the first one that settles the matter does: a request for help or for the
version ends the reading with success, and anything unexpected ends it with status 2. A cluster of
short options such as `-hV` is settled by its first letter.

Behind `--` everything counts as a value, and no subcommand takes values, so `--` is accepted as the
last argument of a subcommand and nowhere else.

How arguments are read, and what is shown to a user who asks for help, are conventions of command
lines and no property of the tasks. They are here so that the tool can be run. What is known about
the tasks starts from an `Invocation` and holds however arguments are read.
-/

namespace SerialAudio

namespace Tasks

/-- What the command line asks for. -/
inductive Invocation where
  /-- Check that everything builds. -/
  | check
  /-- Run the tests. -/
  | test (unitOnly integrationOnly : Bool)
  /-- Show how the tool is used. -/
  | help
  /-- Show the version of the tool. -/
  | version
  /-- Nothing that makes sense. -/
  | invalid
deriving DecidableEq, Repr

namespace Invocation

/-- The first letter of a cluster of short options. -/
def shortOption? (argument : String) : Option Char :=
  match argument.toList with
  | '-' :: '-' :: _ => none
  | '-' :: c :: _ => some c
  | _ => none

/-- Whether an argument asks for help. -/
def asksForHelp (argument : String) : Bool :=
  argument = "--help" || shortOption? argument = some 'h'

/-- Whether an argument asks for the version. -/
def asksForVersion (argument : String) : Bool :=
  argument = "--version" || shortOption? argument = some 'V'

/-- The arguments behind `check`. -/
def ofCheckArguments : List String → Invocation
  | [] => .check
  | ["--"] => .check
  | a :: _ => if asksForHelp a then .help else .invalid

/-- The arguments behind `test`, with the switches seen so far. -/
def ofTestArguments (unitOnly integrationOnly : Bool) : List String → Invocation
  | [] => .test unitOnly integrationOnly
  | ["--"] => .test unitOnly integrationOnly
  | a :: rest =>
    if a = "--unit" then
      if unitOnly then .invalid else ofTestArguments true integrationOnly rest
    else if a = "--integration" then
      if integrationOnly then .invalid else ofTestArguments unitOnly true rest
    else if asksForHelp a then .help
    else .invalid

/-- The names of the subcommands. -/
def subcommands : List String := ["check", "test", "help"]

/-- The arguments behind `help`: at most one subcommand. -/
def ofHelpArguments : List String → Invocation
  | [] => .help
  | [a] => if a ∈ subcommands then .help else .invalid
  | _ => .invalid

/-- What a command line asks for. -/
def ofArguments : List String → Invocation
  | [] => .invalid
  | "check" :: rest => ofCheckArguments rest
  | "test" :: rest => ofTestArguments false false rest
  | "help" :: rest => ofHelpArguments rest
  | a :: _ =>
    if asksForHelp a then .help
    else if asksForVersion a then .version
    else .invalid

end Invocation

/-- How the tool is used. -/
def usage : String :=
  "I2S audio engine development tasks\n\n"
    ++ "Usage: xtask <COMMAND>\n\n"
    ++ "Commands:\n"
    ++ "  check  Check the engine builds for the bare-metal target and the host\n"
    ++ "  test   Run all tests (unit, integration, doc)\n"
    ++ "  help   Print this message or the help of the given subcommand(s)\n\n"
    ++ "Options:\n"
    ++ "  -h, --help     Print help\n"
    ++ "  -V, --version  Print version"

/-- The version of the tool. -/
def versionLine : String := "xtask 0.1.0"

/-- The text shown for a task that failed. -/
def TaskError.report (e : TaskError) : String :=
  "Error: " ++ e.message ++ e.cause?.elim "" ("\n\nCaused by:\n    " ++ ·)

/-- End a task: the exit status, and a last word if the task failed. -/
def conclude : Except TaskError Unit × Session → UInt32 × Session
  | (.ok (), s) => (0, s)
  | (.error e, s) => (1, s.print .stderr e.report)

/-- Do what a command line asks for, and tell the exit status. -/
def Invocation.run : Invocation → Session → UInt32 × Session
  | .check, s => conclude (runChecks s)
  | .test unitOnly integrationOnly, s => conclude (runTests unitOnly integrationOnly s)
  | .help, s => (0, s.print .stdout usage)
  | .version, s => (0, s.print .stdout versionLine)
  | .invalid, s => (2, s.print .stderr usage)

/-- Run the tool with the given arguments. -/
def runCommandLine (arguments : List String) (s : Session) : UInt32 × Session :=
  (Invocation.ofArguments arguments).run s

end Tasks

end SerialAudio
