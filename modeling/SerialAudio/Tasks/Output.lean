import SerialAudio.Tasks.ResultLine
import SerialAudio.Tasks.Summary
/-!
# What a run prints

A run of the tests prints lines of all kinds, and the result lines of its test binaries are among
them. What keeps the two apart is the mark alone, so a line that is no result line must not contain
it anywhere; apart from that it may say what it likes.

Lines end the way the terminal of the build machine ends them, and not all of them need to end in
the same way.
-/

namespace SerialAudio

namespace Tasks

namespace ResultLine

/-- The counts, in the order in which they are printed. -/
def counts (l : ResultLine) : List Nat :=
  [l.passed, l.failed, l.ignored, l.measured, l.filteredOut]

/-- A line that can be printed: counts have 64 bits, and a time is made of digits and dots. -/
structure Sound (l : ResultLine) : Prop where
  /-- Counts have 64 bits. -/
  count : ∀ n ∈ l.counts, n ≤ Text.greatestCount
  /-- A time is made of digits and dots. -/
  time : ∀ t ∈ l.finishedIn, ∀ c ∈ t, c.isDigit ∨ c = '.'

end ResultLine

/-- How a line ends. -/
inductive LineEnd where
  /-- With a line feed. -/
  | feed
  /-- With a carriage return and a line feed. -/
  | returnFeed
deriving DecidableEq, Repr

/-- The characters at the end of a line. -/
def LineEnd.chars : LineEnd → List Char
  | .feed => ['\n']
  | .returnFeed => ['\r', '\n']

/-- A line of the output. -/
inductive Line where
  /-- A line without the mark of a result line. -/
  | other (text : List Char) (unbroken : '\n' ∉ text) (unmarked : ¬Totals.mark <:+: text)
  /-- A result line. -/
  | result (l : ResultLine) (sound : l.Sound)

namespace Line

/-- The line, without its end. -/
def text : Line → List Char
  | other text _ _ => text
  | result l _ => l.print

/-- What the line says about a test binary. -/
def result? : Line → Option ResultLine
  | other .. => none
  | result l _ => some l

end Line

/-- The text of some lines with their ends. -/
def printed (ls : List (Line × LineEnd)) : List Char :=
  ls.flatMap fun l => l.1.text ++ l.2.chars

end Tasks

end SerialAudio
