import DsiPanel.Host

/-!
# Boards: a host made of four parts

Most boards are put together from a command bus, the pin of the reset line, a bias supply and a
timer. Each part only knows its own calls and only says whether it accepted them. The **board**
sends every action to the one part it is for, leaves the other three as they are, and says in the
common terms of `Fault` which part failed.

The board is also where a read is first judged: a bus that claims more bytes than the buffer holds
has not given an answer that can be used, and the read fails.
-/

set_option autoImplicit false

namespace DsiPanel

/-! ## The parts -/

/-- A command bus, usually the link controller of the display host. -/
class Bus (β : Type) where
  /-- send a command; true when the bus accepted it -/
  write : (opcode : UInt32) → (parameters : List UInt8) → (urgent : Bool) → β → Bool × β
  /-- read a register into a buffer, with the count of valid bytes, or none when the bus failed -/
  read : {n : Nat} → (register : UInt32) → Vector UInt8 n → β → (Option Nat × Vector UInt8 n) × β

/-- A pin that can be driven. -/
class OutputPin (ρ : Type) where
  /-- drive the pin; true when it followed -/
  drive : Level → ρ → Bool × ρ

/-- The supply of the two bias rails. -/
class BiasSupply (γ : Type) where
  /-- switch the regulated rails; true when the supply accepted it -/
  switch : (enable : Bool) → RailOrder → (millivolts : UInt16) → γ → Bool × γ
  /-- drive the enable pin of the rails; true when it followed -/
  drivePin : Level → γ → Bool × γ

/-- A timer. Waiting cannot fail. -/
class Timer (δ : Type) where
  waitMs : UInt32 → δ → δ
  waitUs : UInt32 → δ → δ

/-! ## Rails that one pin switches -/

/-- A bias supply of fixed voltage and order, which one pin switches on and off. -/
structure PinRail (ρ : Type) where
  enable : ρ
  deriving DecidableEq

/-- Drive the enable pin of the rail. -/
def PinRail.drive {ρ : Type} [OutputPin ρ] (level : Level) (rail : PinRail ρ) : Bool × PinRail ρ :=
  let (accepted, enable) := OutputPin.drive level rail.enable
  (accepted, ⟨enable⟩)

/-- The order and the voltage are those of the hardware, whatever is asked for. -/
instance {ρ : Type} [OutputPin ρ] : BiasSupply (PinRail ρ) where
  switch enable _ _ := PinRail.drive (.ofBool enable)
  drivePin := PinRail.drive

/-! ## The board -/

/-- A command bus, a reset pin, a bias supply and a timer. -/
structure Board (β ρ γ δ : Type) where
  bus : β
  resetPin : ρ
  biasSupply : γ
  timer : δ
  deriving DecidableEq

namespace Board

variable {β ρ γ δ : Type}

/-- A part says that it failed, and the board says of which part that is. -/
def accept (fault : Fault) : Bool → Except Fault Unit
  | true => .ok ()
  | false => .error fault

/-- The answer to a read, from what the bus reported: a failure of the bus, a count beyond the
    buffer, or a count that is good. -/
def judge {n : Nat} : Option Nat → Vector UInt8 n → Reading n
  | none, buffer => ⟨.error .transport, buffer⟩
  | some count, buffer => ⟨if n < count then .error .bufferTooSmall else .ok count, buffer⟩

/-- Each action goes to the one part it is for. -/
def act [Bus β] [OutputPin ρ] [BiasSupply γ] [Timer δ] (board : Board β ρ γ δ) :
    Action → Except Fault Unit × Board β ρ γ δ
  | .reset level =>
    let (accepted, resetPin) := OutputPin.drive level board.resetPin
    (accept .gpio accepted, { board with resetPin })
  | .bias enable order millivolts =>
    let (accepted, biasSupply) := BiasSupply.switch enable order millivolts board.biasSupply
    (accept .bias accepted, { board with biasSupply })
  | .biasPin level =>
    let (accepted, biasSupply) := BiasSupply.drivePin level board.biasSupply
    (accept .bias accepted, { board with biasSupply })
  | .waitMs milliseconds => (.ok (), { board with timer := Timer.waitMs milliseconds board.timer })
  | .waitUs microseconds => (.ok (), { board with timer := Timer.waitUs microseconds board.timer })
  | .write opcode parameters urgent =>
    let (accepted, bus) := Bus.write opcode parameters urgent board.bus
    (accept .transport accepted, { board with bus })

/-- A read goes to the bus, and what the bus reports is judged. -/
def readInto [Bus β] {n : Nat} (board : Board β ρ γ δ) (register : UInt32)
    (buffer : Vector UInt8 n) : Reading n × Board β ρ γ δ :=
  let ((count, filled), bus) := Bus.read register buffer board.bus
  (judge count filled, { board with bus })

instance [Bus β] [OutputPin ρ] [BiasSupply γ] [Timer δ] : Host (Board β ρ γ δ) where
  act action board := board.act action
  readInto register buffer board := board.readInto register buffer

end Board

end DsiPanel
