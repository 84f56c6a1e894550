import SerialAudio.Engine.Bench
import SerialAudio.Engine.History
/-!
# Calls

Between the acts of a history its owner may look at an engine, at any time and as often as it
likes. A call is an act or such a look. Looking has an answer and no effect, so that a sequence of
calls leaves what its acts alone would have left.
-/

namespace SerialAudio

namespace Installed

/-- What is done to an engine on its rig, or asked of it. -/
inductive Call where
  /-- Something happens. -/
  | act (a : Act)
  /-- The engine is read off. -/
  | read
  /-- The engine is described. -/
  | describe
deriving DecidableEq, Repr

/-- What comes of a call. -/
inductive Answer where
  /-- What came of an act. -/
  | outcome (o : Outcome)
  /-- What the engine shows. -/
  | reading (r : Bench.Reading)
  /-- What is known about the engine. -/
  | description (d : Bench.Description)

variable {n : Nat}

/-- Do a call. -/
def call (s : Installed n) : Call → Answer × Installed n
  | .act a => let (o, s) := s.step a; (.outcome o, s)
  | .read => (.reading (Bench.readOff s), s)
  | .describe => (.description (Bench.describe s), s)

/-- The state after calls. -/
def afterCalls (s : Installed n) (calls : List Call) : Installed n :=
  calls.foldl (fun s c => (s.call c).2) s

/-- The act of a call. -/
def Call.act? : Call → Option Act
  | .act a => some a
  | .read => none
  | .describe => none

/-- Questions leave no trace. -/
theorem afterCalls_eq {s : Installed n} {calls : List Call} :
    s.afterCalls calls = s.after (calls.filterMap Call.act?) := by
  induction calls generalizing s with
  | nil => rfl
  | cons c calls ih =>
    cases c with
    | act a => exact ih (s := (s.step a).2)
    | read => exact ih (s := s)
    | describe => exact ih (s := s)

end Installed

end SerialAudio
