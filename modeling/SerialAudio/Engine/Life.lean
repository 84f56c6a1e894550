import SerialAudio.Engine.History
import SerialAudio.Stream.Service
/-!
# What an endpoint lives through

Removing an engine ends its history and not that of its rig. A lane that ran goes on running, and
the transfers that end on it still reach the endpoint it was started for. `Rig.step` is what an act
does to a rig without its engine: it is the same as before, except that a start and a cancel find
nobody to do them.

An endpoint does not know whether the engine is still there. All that it ever hears is in the acts
and in what came of them, so `Endpoint.hear` goes along a transcript and looks at neither the engine
nor the controller. A transfer is heard of if it was somebody's turn, and a start if it failed.
-/

namespace SerialAudio

/-! ## Rigs without an engine -/

namespace Rig

variable {n : Nat}

/-- A transfer of the rig ended. -/
def complete (rig : Rig n) (d : Direction) (x : Transfer) : Option Delivery × Rig n :=
  let (v, transport) := rig.transport.complete d x
  (v, { rig with transport })

/-- Let an act happen to a rig from which the engine was removed. -/
def step (rig : Rig n) : Act → Outcome × Rig n
  | .start => (.done, rig)
  | .cancel => (.done, rig)
  | .refuse d => (.done, { rig with transport.dma := rig.transport.dma.refuse d })
  | .finish d buffer => let (v, rig) := rig.complete d (.finished buffer); (.delivered v, rig)
  | .fail d => let (v, rig) := rig.complete d (.failed []); (.delivered v, rig)

/-- The rig after acts. -/
def after (rig : Rig n) (acts : List Act) : Rig n := acts.foldl (fun rig a => (rig.step a).2) rig

/-- Acts with what comes of them. -/
def transcript (rig : Rig n) : List Act → List (Act × Outcome)
  | [] => []
  | a :: acts => (a, (rig.step a).1) :: (rig.step a).2.transcript acts

variable {rig : Rig n} {a : Act} {acts : List Act}

@[simp] theorem after_nil : rig.after [] = rig := rfl

@[simp] theorem after_cons : rig.after (a :: acts) = (rig.step a).2.after acts := rfl

@[simp] theorem transcript_nil : rig.transcript [] = [] := rfl

@[simp] theorem transcript_cons :
    rig.transcript (a :: acts) = (a, (rig.step a).1) :: (rig.step a).2.transcript acts := rfl

end Rig

/-! ## Transcripts -/

namespace Installed

variable {n : Nat}

/-- Acts with what comes of them. -/
def transcript (s : Installed n) : List Act → List (Act × Outcome)
  | [] => []
  | a :: acts => (a, (s.step a).1) :: (s.step a).2.transcript acts

variable {s : Installed n} {a : Act} {acts : List Act}

@[simp] theorem transcript_nil : s.transcript [] = [] := rfl

@[simp] theorem transcript_cons :
    s.transcript (a :: acts) = (a, (s.step a).1) :: (s.step a).2.transcript acts := rfl

end Installed

/-! ## What is heard -/

/-- What the stream is asked for with an act, by what came of it. -/
def Act.calls : Act × Outcome → List SampleStream.Call
  | (.finish d buffer, .delivered (some _)) => [⟨d, buffer⟩]
  | _ => []

/-- What the stream is asked for along a transcript. -/
def Act.callsOf (transcript : List (Act × Outcome)) : List SampleStream.Call :=
  transcript.flatMap Act.calls

namespace Endpoint

/-- What an act makes of the endpoint that it is about, by what came of it. -/
def hear (e : Endpoint) : Act × Outcome → Endpoint
  | (.start, .started (.error .faulted)) => e
  | (.start, .started (.error _)) => e.trip
  | (.finish d buffer, .delivered (some _)) => (e.complete d (.finished buffer)).2
  | (.fail d, .delivered (some _)) => (e.complete d (.failed [])).2
  | _ => e

/-- What the endpoint answers the transfer that ends with an act, if it is asked. -/
def answer? (e : Endpoint) : Act → Option Delivery
  | .finish d buffer => some (e.complete d (.finished buffer)).1
  | .fail d => some (e.complete d (.failed [])).1
  | _ => none

/-- An endpoint hears a transcript and is another one afterwards. Whatever was delivered is its own
answer. -/
inductive Hears : Endpoint → List (Act × Outcome) → Endpoint → Prop where
  /-- Nothing was heard. -/
  | nil {e : Endpoint} : Hears e [] e
  /-- An act was heard of, and more after it. -/
  | cons {e e' : Endpoint} {a : Act} {o : Outcome} {more : List (Act × Outcome)}
      (answer : ∀ v, o = .delivered (some v) → e.answer? a = some v)
      (rest : Hears (e.hear (a, o)) more e') : Hears e ((a, o) :: more) e'

variable {e e' e'' : Endpoint} {a : Act} {o : Outcome} {x : Act × Outcome}
  {transcript more : List (Act × Outcome)}

theorem Hears.single (answer : ∀ v, o = .delivered (some v) → e.answer? a = some v) :
    e.Hears [(a, o)] (e.hear (a, o)) :=
  .cons answer .nil

theorem Hears.append (first : e.Hears transcript e') (second : e'.Hears more e'') :
    e.Hears (transcript ++ more) e'' := by
  induction first with
  | nil => exact second
  | cons answer _ ih => exact .cons answer (ih second)

/-- The stream is told what it is asked for, and nothing else. -/
theorem stream_hear : (e.hear x).stream = e.stream.afterCalls (Act.calls x) := by
  unfold hear
  split
  · rfl
  · rfl
  · exact stream_complete ..
  · exact stream_complete ..
  · -- a transfer that was somebody's turn is among the cases above, so nothing is asked for
    rw [Act.calls]
    · rfl
    · assumption

/-- **The calls of a transcript are all that the stream sees of it.** -/
theorem Hears.stream_eq (heard : e.Hears transcript e') :
    e'.stream = e.stream.afterCalls (Act.callsOf transcript) := by
  induction heard with
  | nil => rfl
  | cons _ _ ih =>
    rw [ih, stream_hear, ← SampleStream.afterCalls_append]
    rfl

end Endpoint

end SerialAudio
