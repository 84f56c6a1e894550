/-!
# Deliveries

A stream answers a transfer with the beginning of its buffer and leaves the rest as it was. How much
it wrote is part of the answer: fewer slots than the buffer has is a short chunk, and what stands
behind them is stale.
-/

namespace SerialAudio

/-- A buffer and how much of it was just written. -/
structure Delivery where
  /-- The number of slots that were written. -/
  produced : Nat
  /-- The whole buffer. -/
  buffer : List UInt32
deriving DecidableEq, Repr

namespace Delivery

/-- Nothing is written. -/
def untouched (buffer : List UInt32) : Delivery := ⟨0, buffer⟩

/-- The buffer with slots written over its beginning. -/
def overlay (slots buffer : List UInt32) : Delivery :=
  ⟨slots.length, slots ++ buffer.drop slots.length⟩

@[simp] theorem produced_overlay (slots buffer : List UInt32) :
    (overlay slots buffer).produced = slots.length := rfl

end Delivery

end SerialAudio
