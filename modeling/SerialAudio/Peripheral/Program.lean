import SerialAudio.Peripheral.Sequence
/-!
# Programs of accesses

A program is a list of steps some of which are sessions: a session takes the bus guard, runs a
program of its own and gives the guard back, whatever happened inside. Sessions nest, so programs
are trees and not lists, and `Program.run` goes through them by recursion on the tree.

The steps are a parameter. `Access` lists what a peripheral can do by itself, and `Command` adds the
sequences and the questions that may be asked between them; whatever is true of sessions is true for
both.
-/

namespace SerialAudio

/-- A tree of steps and sessions. -/
inductive Program (α : Type) where
  /-- A single step. -/
  | step (a : α)
  /-- Steps with the bus guard held. -/
  | session (body : List (Program α))

/-- The answers of a program, in the shape of the program. -/
inductive Answer (β : Type) where
  /-- The answer of a single step. -/
  | reply (b : β)
  /-- The answers of a session, and whether the bus was free just before the guard was given
  back. -/
  | session (replies : List (Answer β)) (busFreeInside : Bool)

namespace Program

variable {α β : Type} (act : α → Peripheral → β × Peripheral)

mutual

/-- Run a program whose single steps are done by `act`. -/
def run : Program α → Peripheral → Answer β × Peripheral
  | .step a, p =>
    let (b, q) := act a p
    (.reply b, q)
  | .session body, p =>
    let (replies, q) := runAll body p.enter
    (.session replies q.busFree, q.exit)

/-- Run programs one after the other. -/
def runAll : List (Program α) → Peripheral → List (Answer β) × Peripheral
  | [], p => ([], p)
  | c :: cs, p =>
    let (b, q) := run c p
    let (bs, q) := runAll cs q
    (b :: bs, q)

end

variable {act}

@[simp] theorem run_step (a : α) (p : Peripheral) :
    run act (.step a) p = (.reply (act a p).1, (act a p).2) := rfl

@[simp] theorem run_session (body : List (Program α)) (p : Peripheral) :
    run act (.session body) p =
      (.session (runAll act body p.enter).1 (runAll act body p.enter).2.busFree,
        (runAll act body p.enter).2.exit) := rfl

@[simp] theorem runAll_nil (p : Peripheral) : runAll act [] p = ([], p) := rfl

@[simp] theorem runAll_cons (c : Program α) (cs : List (Program α)) (p : Peripheral) :
    runAll act (c :: cs) p =
      ((run act c p).1 :: (runAll act cs (run act c p).2).1,
        (runAll act cs (run act c p).2).2) := rfl

end Program

/-! ## Single accesses -/

/-- What a peripheral can do by itself. -/
inductive Access where
  /-- Read a register. -/
  | read (r : Register)
  /-- Write a register. -/
  | write (r : Register) (v : UInt32)
  /-- Read a register, and write what a function makes of it. -/
  | modify (r : Register) (f : UInt32 → UInt32)
  /-- Take the bus guard. -/
  | enter
  /-- Give the bus guard back. -/
  | exit
  /-- Wait for some nanoseconds. -/
  | delayNs (ns : UInt32)
  /-- Wait for some microseconds. -/
  | delayUs (us : UInt32)
  /-- Connect a pin. -/
  | route (n : UInt8) (f : PinFunction)
  /-- Start the clock generator. -/
  | startClock (d : Divisor)
  /-- Stop the clock generator. -/
  | stopClock

/-- Do an access. Only a read has something to say. -/
def Access.perform : Access → Peripheral → Option UInt32 × Peripheral
  | .read r, p => (some (p.read r), p)
  | .write r v, p => (none, p.write r v)
  | .modify r f, p => (none, p.modify r f)
  | .enter, p => (none, p.enter)
  | .exit, p => (none, p.exit)
  | .delayNs ns, p => (none, p.delayNs ns)
  | .delayUs us, p => (none, p.delayUs us)
  | .route n f, p => (none, p.route n f)
  | .startClock d, p => (none, p.startClock d)
  | .stopClock, p => (none, p.stopClock)

namespace Peripheral

/-! ## Commands -/

/-- What a test bench may ask of a peripheral. -/
inductive Command where
  /-- A single access. -/
  | access (a : Access)
  /-- Set a register behind the back of the log. -/
  | preload (r : Register) (v : UInt32)
  /-- Bring the block up. -/
  | configure (m : Mode) (role : Role) (o : Pinout)
  /-- Let the block ask for transfers of a number of slots. -/
  | armDma (m : Mode) (slots : Nat)
  /-- Let the directions run. -/
  | enable (m : Mode)
  /-- Shut the block down. -/
  | shutDown (m : Mode) (role : Role) (o : Pinout)
  /-- Connect the pins. -/
  | connectPins (o : Pinout) (m : Mode)
  /-- Give the pins back. -/
  | disconnectPins (o : Pinout) (m : Mode)
  /-- Ask for the rate of the source clock. -/
  | sourceHz
  /-- Ask how many events the log holds. -/
  | eventCount
  /-- Ask what was written to a register. -/
  | writesTo (r : Register)
  /-- Ask which pins were connected to a function. -/
  | pinsSetTo (f : PinFunction)

/-- What a peripheral answers. -/
inductive Reply where
  /-- Nothing to say. -/
  | done
  /-- A word. -/
  | word (v : UInt32)
  /-- A number of events. -/
  | count (n : Nat)
  /-- The words written to a register. -/
  | words (vs : List UInt32)
  /-- Pin numbers. -/
  | pins (ns : List UInt8)
  /-- The command names no chunk, and nothing was done. -/
  | refused (e : ChunkError)

/-- Do a command. -/
def Command.perform : Command → Peripheral → Reply × Peripheral
  | .access a, p => let (v, q) := a.perform p; (v.elim .done .word, q)
  | .preload r v, p => (.done, p.preload r v)
  | .configure m role o, p => (.done, p.configure m role o)
  | .armDma m slots, p =>
    match Chunk.ofSlots slots with
    | .error e => (.refused e, p)
    | .ok c => (.done, p.armDma m c)
  | .enable m, p => (.done, p.enable m)
  | .shutDown m role o, p => (.done, p.shutDown m role o)
  | .connectPins o m, p => (.done, p.connectPins o m)
  | .disconnectPins o m, p => (.done, p.disconnectPins o m)
  | .sourceHz, p => (.word p.sourceHz, p)
  | .eventCount, p => (.count p.log.length, p)
  | .writesTo r, p => (.words (p.writesTo r), p)
  | .pinsSetTo f, p => (.pins (p.pinsSetTo f), p)

/-- What was done since an earlier state of the same peripheral. -/
def since (p earlier : Peripheral) : List Event := p.log.drop earlier.log.length

end Peripheral

end SerialAudio
