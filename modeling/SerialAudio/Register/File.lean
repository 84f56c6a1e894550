/-!
# The register file

The block has five 32-bit registers that behave as plain memory: a read gives back the last word
written. What a bit *does* is nobody's business here, so that a sequence of accesses can be
described without a model of the wire behind it.
-/

namespace SerialAudio

/-- The registers of the block. -/
inductive Register where
  /-- Enables, resets and status. -/
  | controlStatus
  /-- Clock and frame format. -/
  | mode
  /-- Where the capture slots lie in a frame. -/
  | rxConfig
  /-- Where the playback slots lie in a frame. -/
  | txConfig
  /-- The queue levels at which a transfer is asked for. -/
  | dmaRequest
deriving DecidableEq, Repr

namespace Register

/-- The byte offset of a register in the block. -/
def offset : Register → Nat
  | controlStatus => 0x00
  | mode => 0x08
  | rxConfig => 0x0C
  | txConfig => 0x10
  | dmaRequest => 0x14

end Register

/-- The words in the registers. -/
structure RegisterFile where
  /-- Enables, resets and status. -/
  controlStatus : UInt32 := 0
  /-- Clock and frame format. -/
  mode : UInt32 := 0
  /-- Where the capture slots lie in a frame. -/
  rxConfig : UInt32 := 0
  /-- Where the playback slots lie in a frame. -/
  txConfig : UInt32 := 0
  /-- The queue levels at which a transfer is asked for. -/
  dmaRequest : UInt32 := 0
deriving DecidableEq, Repr, Inhabited

namespace RegisterFile

/-- The word in a register. -/
def get (f : RegisterFile) : Register → UInt32
  | .controlStatus => f.controlStatus
  | .mode => f.mode
  | .rxConfig => f.rxConfig
  | .txConfig => f.txConfig
  | .dmaRequest => f.dmaRequest

/-- The file with a new word in one register. -/
def set (f : RegisterFile) (r : Register) (v : UInt32) : RegisterFile :=
  match r with
  | .controlStatus => { f with controlStatus := v }
  | .mode => { f with mode := v }
  | .rxConfig => { f with rxConfig := v }
  | .txConfig => { f with txConfig := v }
  | .dmaRequest => { f with dmaRequest := v }

variable {f : RegisterFile} {r s : Register} {v w : UInt32}

@[simp] theorem get_set_self : (f.set r v).get r = v := by cases r <;> rfl

theorem get_set_of_ne (h : s ≠ r) : (f.set r v).get s = f.get s := by
  cases r <;> cases s <;> first | rfl | exact absurd rfl h

theorem get_set : (f.set r v).get s = if s = r then v else f.get s := by
  split
  · subst s
    exact get_set_self
  · exact get_set_of_ne ‹_›

@[simp] theorem set_get_self : f.set r (f.get r) = f := by cases r <;> rfl

@[simp] theorem set_set_self : (f.set r v).set r w = f.set r w := by cases r <;> rfl

/-- Two files are equal when every register reads the same. -/
@[ext] theorem ext_get {f g : RegisterFile} (h : ∀ r, f.get r = g.get r) : f = g := by
  cases f
  cases g
  have hs := h .controlStatus
  have hm := h .mode
  have hr := h .rxConfig
  have ht := h .txConfig
  have hd := h .dmaRequest
  simp only [get] at hs hm hr ht hd
  simp only [hs, hm, hr, ht, hd]

end RegisterFile

end SerialAudio
