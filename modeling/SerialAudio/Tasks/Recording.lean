import SerialAudio.Tasks.Session
import SerialAudio.Text.Decimal
import SerialAudio.Text.Hex
import SerialAudio.Text.Lines
/-!
# Recorded runs

A task can be told with the runs of the build tool on record. A record has a line for each run with
four words: the exit status, the time in hundredths of a second, and the two outputs in hexadecimal,
where `-` is an empty output. A record whose only word is `missing` stands for a build tool that is
not there.
-/

namespace SerialAudio

namespace Tasks

namespace Recording

/-- The bytes of an output. -/
def bytes? (word : List Char) : Option (List UInt8) :=
  if word = ['-'] then some [] else Text.unhex? word

/-- The run that a line records. -/
def response? (line : List Char) : Option Response :=
  match Text.words line with
  | [status, elapsed, stdout, stderr] => do
    return {
      status := ← Text.count? status
      stdout := ← bytes? stdout
      stderr := ← bytes? stderr
      elapsed := ← Text.count? elapsed }
  | _ => none

/-- The build tool that a record describes. Empty lines record nothing. -/
def tool? (text : List Char) : Option BuildTool :=
  if Text.words text = ["missing".toList] then some .missing
  else
    let recorded := (Text.lines text).filter fun line => !(Text.words line).isEmpty
    BuildTool.replay <$> recorded.mapM response?

end Recording

end Tasks

end SerialAudio
