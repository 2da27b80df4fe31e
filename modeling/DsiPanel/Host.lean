import DsiPanel.Fault
import DsiPanel.Action

/-!
# Hosts: whatever carries out the actions

A sequence knows nothing of the board it runs on. It asks a **host**, and a host is any type of
states with two abilities: to carry out an action, and to read a register into a buffer. Both
answer with a result and the state they leave behind, so a host may fail at any point and may
remember anything.

The buffer of a read has its length in its type. A host fills it as it likes, and reports a count
of its own choosing: nothing here says that the count is the number of bytes it stored, nor that
it stays within the buffer. Whoever asked has to judge the count, and that is where the sequences
differ.
-/

set_option autoImplicit false

namespace DsiPanel

/-! ## Register reads -/

/-- What a register read leaves behind: the count that was reported, or why there is none, and the
    buffer. -/
structure Reading (n : Nat) where
  count : Except Fault Nat
  buffer : Vector UInt8 n
  deriving DecidableEq

/-- The byte that a read of one byte is taken to have found, whatever count came with it. -/
def Reading.firstByte (reading : Reading 1) : Except Fault UInt8 :=
  reading.count.map fun _ => reading.buffer[0]

/-- The way to read one byte that is open to every host: into a cleared buffer of one byte. -/
def readByteBuffered {σ : Type} (readInto : UInt32 → Vector UInt8 1 → σ → Reading 1 × σ)
    (register : UInt32) (host : σ) : Except Fault UInt8 × σ :=
  let (reading, after) := readInto register (Vector.replicate 1 0) host
  (reading.firstByte, after)

/-! ## The class of hosts -/

/-- A host of panel sequences, given by the states it can be in. -/
class Host (σ : Type) where
  /-- carry out one action -/
  act : Action → σ → Except Fault Unit × σ
  /-- read a register into a buffer, which comes back as the host left it -/
  readInto : {n : Nat} → (register : UInt32) → Vector UInt8 n → σ → Reading n × σ
  /-- read a register of one byte, which a host may have a better way for -/
  readByte : (register : UInt32) → σ → Except Fault UInt8 × σ := readByteBuffered readInto

/-! ## Lending a host -/

/-- A host that is lent out: whoever holds the loan drives the host it was taken from. -/
structure Lent (σ : Type) where
  owner : σ
  deriving DecidableEq

namespace Lent

variable {σ : Type}

/-- Carry a step of the owner over to the loan. -/
def through {α : Type} (step : σ → α × σ) (loan : Lent σ) : α × Lent σ :=
  let (answer, after) := step loan.owner
  (answer, ⟨after⟩)

/-- Every call goes to the owner, reads of one byte too: an owner with a way of its own to read
    one byte keeps it while it is lent. -/
instance [Host σ] : Host (Lent σ) where
  act action := through (Host.act action)
  readInto register buffer := through (Host.readInto register buffer)
  readByte register := through (Host.readByte register)

end Lent

end DsiPanel
