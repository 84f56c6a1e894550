import SerialAudio.Text.Decimal
import SerialAudio.Text.Lines
/-!
# Test results

Every test binary ends its output with a result line, and the summary of a run adds them up. A
result line is known by its mark, wherever in the line that stands; what follows the mark is a list
of parts behind semicolons, and a part that ends in a count and a kind is a result. All other parts
are passed over in silence, since more of them may appear one day.

Totals stop at the greatest number that fits instead of wrapping around.
-/

namespace SerialAudio

namespace Tasks

/-- The totals of a run. -/
structure Totals where
  /-- Tests that passed. -/
  passed : Nat := 0
  /-- Tests that failed. -/
  failed : Nat := 0
  /-- Result lines. -/
  binaries : Nat := 0
deriving DecidableEq, Repr, Inhabited

namespace Totals

/-- The greatest number of result lines, of 32 bits. -/
def greatestBinaries : Nat := 4294967295

/-- Totals of two runs together. -/
def add (a b : Totals) : Totals where
  passed := min (a.passed + b.passed) Text.greatestCount
  failed := min (a.failed + b.failed) Text.greatestCount
  binaries := min (a.binaries + b.binaries) greatestBinaries

instance : Add Totals := ⟨add⟩

/-- The mark of a result line. -/
def mark : List Char := "test result:".toList

/-- The count and the kind at the end of a part. -/
def countAndKind? (part : List Char) : Option (Nat × List Char) :=
  match (Text.words part).reverse with
  | kind :: count :: _ => (Text.count? count).map (·, kind)
  | _ => none

/-- What a part adds to the totals. -/
def ofPart (part : List Char) : Totals :=
  match countAndKind? part with
  | none => {}
  | some (n, kind) =>
    if kind = "passed".toList then { passed := n }
    else if kind = "failed".toList then { failed := n }
    else {}

/-- What a line adds to the totals. -/
def ofLine (line : List Char) : Totals :=
  match Text.between? mark line with
  | none => {}
  | some result => (Text.pieces ';' result).foldl (fun t part => t + ofPart part) { binaries := 1 }

/-- The totals of a run that printed a text. -/
def ofText (text : List Char) : Totals :=
  (Text.lines text).foldl (fun t line => t + ofLine line) {}

/-- The text shown for the totals of a run. -/
def summary (t : Totals) : String :=
  if t.binaries = 0 then "(summary not available)"
  else s!"({t.passed} passed, {t.failed} failed across {t.binaries} binaries)"

@[simp] theorem passed_add (a b : Totals) :
    (a + b).passed = min (a.passed + b.passed) Text.greatestCount := rfl

@[simp] theorem failed_add (a b : Totals) :
    (a + b).failed = min (a.failed + b.failed) Text.greatestCount := rfl

@[simp] theorem binaries_add (a b : Totals) :
    (a + b).binaries = min (a.binaries + b.binaries) greatestBinaries := rfl

end Totals

/-- The summary of a run that printed a text. -/
def testSummary (text : List Char) : String := (Totals.ofText text).summary

end Tasks

end SerialAudio
