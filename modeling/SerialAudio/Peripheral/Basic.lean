import SerialAudio.Clock.Divisor
import SerialAudio.Pin
import SerialAudio.Register.File
/-!
# The peripheral as its log

What a peripheral *is* to the rest of the library is what was done to it, in order. Every access
that can be seen from outside appends one event: writes, waits, pin changes, clock changes and the
two halves of the bus guard. A read leaves no trace, and neither does preloading a register, which
stands for the state in which the block was found.

The guard is a counter and not a flag. Guards may nest, and a release without an acquisition is a
mistake that leaves the bus free instead of making the counter negative. The counter has no greatest
value here; a machine word that stops at its own says the same of every log that is shorter than
that (`Event.toNat_guardWord`).
-/

namespace SerialAudio

/-- What can be seen of an access. -/
inductive Event where
  /-- The bus guard was taken. -/
  | busEnter
  /-- The bus guard was given back. -/
  | busExit
  /-- A register was written. -/
  | write (r : Register) (v : UInt32)
  /-- Somebody waited, in microseconds. -/
  | delayUs (us : UInt32)
  /-- A pin was connected. -/
  | pin (n : UInt8) (f : PinFunction)
  /-- The clock generator was started. -/
  | clockStart (d : Divisor)
  /-- The clock generator was stopped. -/
  | clockStop
deriving DecidableEq, Repr

/-- The rate of the source clock where nobody says otherwise. -/
def Peripheral.defaultSourceHz : UInt32 := 750000000

/-- The block with its clock generator and its pins. -/
structure Peripheral where
  /-- The clock that feeds the clock generator, in Hz. -/
  sourceHz : UInt32 := Peripheral.defaultSourceHz
  /-- The words in the registers. -/
  registers : RegisterFile := {}
  /-- How many guards are held. -/
  depth : Nat := 0
  /-- What was done, oldest first. -/
  log : List Event := []
deriving DecidableEq, Repr, Inhabited

namespace Peripheral

variable (p : Peripheral)

/-! ## Accesses -/

/-- The peripheral after an event that changes nothing but the log. -/
def record (e : Event) : Peripheral := { p with log := p.log ++ [e] }

/-- The word in a register. -/
def read (r : Register) : UInt32 := p.registers.get r

/-- Write a register. -/
def write (r : Register) (v : UInt32) : Peripheral :=
  { p with registers := p.registers.set r v, log := p.log ++ [.write r v] }

/-- Read a register, and write what `f` makes of it. -/
def modify (r : Register) (f : UInt32 → UInt32) : Peripheral := p.write r (f (p.read r))

/-- Set a register behind the back of the log. -/
def preload (r : Register) (v : UInt32) : Peripheral := { p with registers := p.registers.set r v }

/-- Take the bus guard. -/
def enter : Peripheral := { p with depth := p.depth + 1, log := p.log ++ [.busEnter] }

/-- Give the bus guard back. -/
def exit : Peripheral := { p with depth := p.depth - 1, log := p.log ++ [.busExit] }

/-- Wait for some microseconds. -/
def delayUs (us : UInt32) : Peripheral := p.record (.delayUs us)

/-- Wait for some nanoseconds, counted in whole microseconds. -/
def delayNs (ns : UInt32) : Peripheral := p.delayUs (ns / 1000)

/-- Connect a pin. -/
def route (n : UInt8) (f : PinFunction) : Peripheral := p.record (.pin n f)

/-- Connect pins in turn. -/
def routeAll (ns : List UInt8) (f : PinFunction) : Peripheral :=
  ns.foldl (fun p n => p.route n f) p

/-- Start the clock generator. -/
def startClock (d : Divisor) : Peripheral := p.record (.clockStart d)

/-- Stop the clock generator. -/
def stopClock : Peripheral := p.record .clockStop

/-! ## Views -/

/-- Whether every guard was given back. -/
def busFree : Bool := p.depth = 0

/-- What was written to a register, oldest first. -/
def writesTo (r : Register) : List UInt32 :=
  p.log.filterMap fun
    | .write s v => if s = r then some v else none
    | _ => none

/-- The pins that were connected to a function, oldest first. -/
def pinsSetTo (f : PinFunction) : List UInt8 :=
  p.log.filterMap fun
    | .pin n g => if g = f then some n else none
    | _ => none

/-! ## What each access leaves alone -/

variable {p} {r : Register} {v : UInt32}

@[simp] theorem log_record (e : Event) : (p.record e).log = p.log ++ [e] := rfl
@[simp] theorem registers_record (e : Event) : (p.record e).registers = p.registers := rfl
@[simp] theorem depth_record (e : Event) : (p.record e).depth = p.depth := rfl
@[simp] theorem sourceHz_record (e : Event) : (p.record e).sourceHz = p.sourceHz := rfl

@[simp] theorem log_write : (p.write r v).log = p.log ++ [.write r v] := rfl
@[simp] theorem registers_write : (p.write r v).registers = p.registers.set r v := rfl
@[simp] theorem depth_write : (p.write r v).depth = p.depth := rfl
@[simp] theorem sourceHz_write : (p.write r v).sourceHz = p.sourceHz := rfl

@[simp] theorem log_enter : p.enter.log = p.log ++ [.busEnter] := rfl
@[simp] theorem registers_enter : p.enter.registers = p.registers := rfl
@[simp] theorem depth_enter : p.enter.depth = p.depth + 1 := rfl
@[simp] theorem sourceHz_enter : p.enter.sourceHz = p.sourceHz := rfl

@[simp] theorem log_exit : p.exit.log = p.log ++ [.busExit] := rfl
@[simp] theorem registers_exit : p.exit.registers = p.registers := rfl
@[simp] theorem depth_exit : p.exit.depth = p.depth - 1 := rfl
@[simp] theorem sourceHz_exit : p.exit.sourceHz = p.sourceHz := rfl

@[simp] theorem log_routeAll (ns : List UInt8) (f : PinFunction) :
    (p.routeAll ns f).log = p.log ++ ns.map (Event.pin · f) := by
  induction ns generalizing p with
  | nil => simp [routeAll]
  | cons n ns ih =>
    have h := ih (p := p.route n f)
    rw [route, log_record, List.append_assoc] at h
    exact h

@[simp] theorem registers_routeAll (ns : List UInt8) (f : PinFunction) :
    (p.routeAll ns f).registers = p.registers := by
  induction ns generalizing p with
  | nil => rfl
  | cons n ns ih => exact ih (p := p.route n f)

@[simp] theorem depth_routeAll (ns : List UInt8) (f : PinFunction) :
    (p.routeAll ns f).depth = p.depth := by
  induction ns generalizing p with
  | nil => rfl
  | cons n ns ih => exact ih (p := p.route n f)

end Peripheral

end SerialAudio
