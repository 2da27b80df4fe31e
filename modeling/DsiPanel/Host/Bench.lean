import DsiPanel.Host.Board

/-!
# Hosts for the bench

Hosts that stand for no hardware. One accepts whatever it is asked for. One accepts a number of
actions and then gives out, which is how a sequence is brought to stop at any point of it that one
likes. The other two are about reads: one answers them from a shelf of registers, and may report
another count than it stores, and one looks at what is in the buffers that it is given.

Two of them make up a board as well: the shelf is a bus, and what is willing is any of the other
parts. A bus may also be plugged in with no board around it.
-/

set_option autoImplicit false

namespace DsiPanel

/-- A host that accepts every action, and has nothing to remember. -/
structure Willing where
  deriving DecidableEq

instance : Host Willing where
  act _ host := (.ok (), host)
  readInto {n} _ buffer host := (⟨.ok n, buffer⟩, host)

/-- A host that accepts so many more actions, and answers any other with the fault. -/
structure Fused where
  left : Nat
  fault : Fault
  deriving DecidableEq

instance : Host Fused where
  act _
    | ⟨0, fault⟩ => (.error fault, ⟨0, fault⟩)
    | ⟨left + 1, fault⟩ => (.ok (), ⟨left, fault⟩)
  readInto {n} _ buffer host := (⟨.ok n, buffer⟩, host)

/-- A host with a shelf of registers. Each comes with the bytes that a read of it stores, as far as
    the buffer goes, and with the count that is reported for it. -/
structure Shelf where
  cells : List (UInt32 × List UInt8 × Nat)
  deriving DecidableEq

/-- What a read of a register makes of a buffer. -/
def Shelf.take {n : Nat} (shelf : Shelf) (register : UInt32) (buffer : Vector UInt8 n) :
    Reading n :=
  match shelf.cells.lookup register with
  | none => ⟨.ok 0, buffer⟩
  | some (bytes, reported) => ⟨.ok reported, Vector.ofFn fun i => bytes.getD i.val buffer[i]⟩

instance : Host Shelf where
  act _ host := (.ok (), host)
  readInto register buffer host := (host.take register buffer, host)

/-- A host that has the same byte in all registers, and keeps the last buffer as it was given it. -/
structure Peeper where
  byte : UInt8
  found : List UInt8 := []
  deriving DecidableEq

instance : Host Peeper where
  act _ host := (.ok (), host)
  readInto {n} _ buffer host :=
    (⟨.ok n, Vector.replicate n host.byte⟩, { host with found := buffer.toList })

/-! ## Parts -/

instance : OutputPin Willing where
  drive _ pin := (true, pin)

instance : BiasSupply Willing where
  switch _ _ _ supply := (true, supply)
  drivePin _ supply := (true, supply)

instance : Timer Willing where
  waitMs _ timer := timer
  waitUs _ timer := timer

instance : Bus Shelf where
  write _ _ _ shelf := (true, shelf)
  read register buffer shelf :=
    let reading := shelf.take register buffer
    ((reading.count.toOption, reading.buffer), shelf)

/-- A bus that is a host by itself. It has no other parts to call, and it hands on whatever the bus
    says of a read. -/
structure Plugged (β : Type) where
  bus : β
  deriving DecidableEq

namespace Plugged

variable {β : Type} [Bus β]

def reading {n : Nat} : Option Nat → Vector UInt8 n → Reading n
  | none, buffer => ⟨.error .transport, buffer⟩
  | some count, buffer => ⟨.ok count, buffer⟩

def act (host : Plugged β) : Action → Except Fault Unit × Plugged β
  | .write opcode parameters urgent =>
    let (accepted, bus) := Bus.write opcode parameters urgent host.bus
    (Board.accept .transport accepted, ⟨bus⟩)
  | _ => (.ok (), host)

instance : Host (Plugged β) where
  act action host := host.act action
  readInto register buffer host :=
    let ((reported, filled), bus) := Bus.read register buffer host.bus
    (reading reported filled, ⟨bus⟩)

end Plugged

end DsiPanel
