/-!
# The control bus

A codec is configured over a two-wire bus. Nothing is known about what hangs on that bus, so the bus
is a function: the number of the transaction, the address and the operations decide whether it
succeeds. Any behaviour of any set of devices is such a function, and what is proved about every
bus holds for flaky ones too.

The bus keeps the record of all transactions with their outcomes. What the devices saw is a view of
that record.

What a bus says about a failure is its own business: nobody here looks at it, and a failure is only
passed on. So the errors are a parameter, and `BusError` is what stands for it where a fault is
planned.
-/

namespace SerialAudio

/-- Why a transaction failed. -/
inductive BusError where
  /-- The bus is in disorder. -/
  | bus
  /-- Somebody else won the bus. -/
  | arbitrationLoss
  /-- Nobody answered to the address. -/
  | addressNotAcknowledged
  /-- A byte was not taken. -/
  | dataNotAcknowledged
  /-- Something was not acknowledged. -/
  | notAcknowledged
  /-- Data came faster than it could be taken. -/
  | overrun
  /-- Anything else. -/
  | other
deriving DecidableEq, Repr

/-- The text shown for a bus error. -/
def BusError.message : BusError → String
  | bus => "Bus"
  | arbitrationLoss => "ArbitrationLoss"
  | addressNotAcknowledged => "NoAcknowledge(Address)"
  | dataNotAcknowledged => "NoAcknowledge(Data)"
  | notAcknowledged => "NoAcknowledge(Unknown)"
  | overrun => "Overrun"
  | other => "Other"

/-- One part of a transaction. -/
inductive BusOperation where
  /-- Send bytes. -/
  | write (bytes : List UInt8)
  /-- Ask for a number of bytes. -/
  | read (length : Nat)
deriving DecidableEq, Repr

/-- One entry of the record. -/
structure Transaction (ε : Type := BusError) where
  /-- The address on the bus. -/
  address : UInt8
  /-- What was done there. -/
  operations : List BusOperation
  /-- Why it failed, if it did. -/
  failure : Option ε
deriving DecidableEq, Repr

/-- How a bus behaves: the error, if any, of the transaction with a given number. -/
abbrev BusBehaviour (ε : Type := BusError) := Nat → UInt8 → List BusOperation → Option ε

/-- A bus and what happened on it. -/
structure ControlBus (ε : Type := BusError) where
  /-- How the bus behaves. -/
  behaviour : BusBehaviour ε
  /-- What happened, oldest first. -/
  record : List (Transaction ε) := []

/-- The outcome of a failure that did or did not happen. -/
def outcomeOf {ε : Type} : Option ε → Except ε Unit
  | none => .ok ()
  | some e => .error e

theorem outcomeOf_eq_ok_iff {ε : Type} {failure : Option ε} :
    outcomeOf failure = .ok () ↔ failure = none := by
  cases failure with
  | none => exact ⟨fun _ => rfl, fun _ => rfl⟩
  | some e => exact ⟨nofun, nofun⟩

namespace ControlBus

variable {ε : Type}

/-- Do a transaction. -/
def transact (b : ControlBus ε) (address : UInt8) (operations : List BusOperation) :
    Except ε Unit × ControlBus ε :=
  let failure := b.behaviour b.record.length address operations
  (outcomeOf failure, { b with record := b.record ++ [⟨address, operations, failure⟩] })

/-- Send bytes in a transaction of their own. -/
def write (b : ControlBus ε) (address : UInt8) (bytes : List UInt8) :
    Except ε Unit × ControlBus ε :=
  b.transact address [.write bytes]

@[simp] theorem behaviour_transact (b : ControlBus ε) (a : UInt8) (ops : List BusOperation) :
    (b.transact a ops).2.behaviour = b.behaviour := rfl

@[simp] theorem record_transact (b : ControlBus ε) (a : UInt8) (ops : List BusOperation) :
    (b.transact a ops).2.record =
      b.record ++ [⟨a, ops, b.behaviour b.record.length a ops⟩] := rfl

end ControlBus

/-! ## Planned faults -/

/-- A bus with planned faults: some addresses are empty, and some transactions fail by number
before they reach anybody. -/
structure FaultPlan where
  /-- The addresses where nobody answers. -/
  absent : List UInt8 := []
  /-- The numbers of the transactions that fail, with their errors. Of several entries for one
  number the last counts. -/
  scripted : List (Nat × BusError) := []
deriving DecidableEq, Repr, Inhabited

namespace FaultPlan

/-- The planned error of a transaction. -/
def scriptedAt (f : FaultPlan) (index : Nat) : Option BusError :=
  (f.scripted.reverse.find? (·.1 = index)).map (·.2)

/-- How the bus behaves under the plan. -/
def behaviour (f : FaultPlan) : BusBehaviour := fun index address _ =>
  (f.scriptedAt index).or (if address ∈ f.absent then some .addressNotAcknowledged else none)

/-- A bus under the plan on which nothing happened yet. -/
def bus (f : FaultPlan) : ControlBus := { behaviour := f.behaviour }

/-- The transactions of a record that reached the devices. -/
def reached (f : FaultPlan) (record : List Transaction) : List Transaction :=
  (record.zipIdx.filter fun x => (f.scriptedAt x.2).isNone).map (·.1)

/-- The addresses that the devices saw on the bus. -/
def attempts (f : FaultPlan) (record : List Transaction) : List UInt8 :=
  (f.reached record).map (·.address)

/-- The bytes that a transaction sent. -/
def sent (x : Transaction) : List (UInt8 × List UInt8) :=
  x.operations.filterMap fun
    | .write bytes => some (x.address, bytes)
    | .read _ => none

/-- The bytes that the devices accepted, with their addresses. -/
def accepted (f : FaultPlan) (record : List Transaction) : List (UInt8 × List UInt8) :=
  ((f.reached record).filter (·.failure.isNone)).flatMap sent

end FaultPlan

end SerialAudio
