import SerialAudio.Peripheral.Basic
/-!
# Reading a log

A log is only worth keeping if the state can be read off it. Two things are read off here, and
neither definition looks at the accesses that made the log: the registers, by doing all the writes
again, and the guards that are still held, by pairing each release with the nearest acquisition
before it that has no release yet. A release that finds none is ignored.
-/

namespace SerialAudio

namespace Event

/-- What an event does to a register file. -/
def redo (f : RegisterFile) : Event → RegisterFile
  | .write r v => f.set r v
  | _ => f

/-- The registers after a log, from those before it. -/
def replay (f : RegisterFile) (log : List Event) : RegisterFile := log.foldl redo f

/-- What an event does to the places of the acquisitions without a release, nearest first. -/
def pair (held : List Nat) : Event × Nat → List Nat
  | (.busEnter, i) => i :: held
  | (.busExit, _) => held.tail
  | _ => held

/-- The places in a log of the acquisitions that have no release, nearest first. -/
def unreleased (log : List Event) : List Nat := log.zipIdx.foldl pair []

variable {f : RegisterFile} {log more : List Event} {e : Event}

@[simp] theorem replay_nil : replay f [] = f := rfl

@[simp] theorem replay_append : replay f (log ++ more) = replay (replay f log) more :=
  List.foldl_append

theorem replay_singleton : replay f [e] = redo f e := rfl

@[simp] theorem unreleased_nil : unreleased [] = [] := rfl

theorem unreleased_concat : unreleased (log ++ [e]) = pair (unreleased log) (e, log.length) := by
  simp [unreleased, List.zipIdx_append]

end Event

namespace Peripheral

/-- The log accounts for the registers and for the guards of a peripheral that was found with the
registers `f` and with no guard held. -/
structure Accounted (f : RegisterFile) (p : Peripheral) : Prop where
  /-- The registers are those that the log leaves. -/
  registers : p.registers = Event.replay f p.log
  /-- The guards are those that the log leaves. -/
  depth : p.depth = (Event.unreleased p.log).length

end Peripheral

end SerialAudio
