/-!
# What can go wrong while a panel is driven

A host carries out the primitives of a sequence, and any of them can fail. The five causes below
are all that a sequence ever stops for. Three name the part of the board that failed; the other
two are limits: a read that does not fit its buffer, and a register write that is too long to be
sent.

A cause has a `name`, which is how a log line shows it, and a `message`, which is how an error
shows it.
-/

set_option autoImplicit false

namespace DsiPanel

/-- Why a primitive, and with it the sequence it belongs to, failed. -/
inductive Fault where
  /-- the command transport failed -/
  | transport
  /-- a pin could not be driven -/
  | gpio
  /-- the bias supply refused the request -/
  | bias
  /-- the register content does not fit the buffer of the read -/
  | bufferTooSmall
  /-- a register write carries more bytes than one write may -/
  | tooManyParameters
  deriving DecidableEq, Repr, Inhabited

/-- The name of the cause in a log line. -/
def Fault.name : Fault → String
  | .transport => "TransportError"
  | .gpio => "GPIOError"
  | .bias => "BiasError"
  | .bufferTooSmall => "BufferTooSmall"
  | .tooManyParameters => "TooManyParameters"

/-- The sentence that reports the cause. -/
def Fault.message : Fault → String
  | .transport => "command transport error"
  | .gpio => "gpio error"
  | .bias => "bias supply error"
  | .bufferTooSmall => "read buffer too small"
  | .tooManyParameters => "register write exceeds the parameter limit"

/-- Answers stand in the record of a run, and records can be compared by evaluation. -/
instance decidableEqAnswer {ε α : Type} [DecidableEq ε] [DecidableEq α] :
    DecidableEq (Except ε α)
  | .ok a, .ok b =>
    if same : a = b then isTrue (congrArg _ same) else isFalse fun eq => same (Except.ok.inj eq)
  | .error a, .error b =>
    if same : a = b then isTrue (congrArg _ same) else isFalse fun eq => same (Except.error.inj eq)
  | .ok _, .error _ => isFalse nofun
  | .error _, .ok _ => isFalse nofun

end DsiPanel
