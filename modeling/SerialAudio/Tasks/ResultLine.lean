import SerialAudio.Text.Decimal
/-!
# Result lines

The line with which a test binary ends its output, as it is printed. Reading it back is the business
of the summary, which looks for far less than all of it.
-/

namespace SerialAudio

namespace Tasks

/-- What a test binary says at its end. -/
structure ResultLine where
  /-- Whether all tests passed. -/
  ok : Bool
  /-- Tests that passed. -/
  passed : Nat
  /-- Tests that failed. -/
  failed : Nat
  /-- Tests that were not run. -/
  ignored : Nat
  /-- Tests that measured something. -/
  measured : Nat
  /-- Tests that were not selected. -/
  filteredOut : Nat
  /-- How long it took, in seconds, if that is shown. -/
  finishedIn : Option (List Char)
deriving DecidableEq, Repr

namespace ResultLine

/-- The words of a part: a count and what it counts. -/
def part (n : Nat) (kind : String) : List Char := ' ' :: Text.decimal n ++ ' ' :: kind.toList

/-- The part that says how long it took. -/
def tail : Option (List Char) → List Char
  | none => []
  | some t => "; finished in ".toList ++ t ++ ['s']

/-- The line, without its end. -/
def print (l : ResultLine) : List Char :=
  "test result: ".toList ++ (if l.ok then "ok." else "FAILED.").toList
    ++ part l.passed "passed" ++ ';' :: part l.failed "failed" ++ ';' :: part l.ignored "ignored"
    ++ ';' :: part l.measured "measured" ++ ';' :: part l.filteredOut "filtered out"
    ++ tail l.finishedIn

end ResultLine

end Tasks

end SerialAudio
