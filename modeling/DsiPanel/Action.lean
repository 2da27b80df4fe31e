/-!
# The actions a sequence asks for

Everything a sequence does to a panel, reads apart, is one of six actions: drive the reset line,
switch the bias rails, drive the bias enable pin, wait in one of two units, or send one command on
the link. They are data, so that a table or a script can be compared with the list of actions it
stands for.
-/

set_option autoImplicit false

namespace DsiPanel

/-! ## Signals -/

/-- The level of a pin. -/
inductive Level where
  | low
  | high
  deriving DecidableEq, Repr, Inhabited

namespace Level

/-- A pin that switches something is high when that is to be on. -/
def ofBool : Bool → Level
  | true => .high
  | false => .low

/-- The name of the level in a log line. -/
def name : Level → String
  | .low => "Low"
  | .high => "High"

end Level

/-- Which of the two bias rails, the positive or the negative, is switched first. -/
inductive RailOrder where
  | positiveFirst
  | negativeFirst
  deriving DecidableEq, Repr, Inhabited

/-- The name of the order in a log line. -/
def RailOrder.name : RailOrder → String
  | .positiveFirst => "VspFirstVsnAfter"
  | .negativeFirst => "VsnFirstVspAfter"

/-! ## Actions -/

/-- One request to the host that is not a read. -/
inductive Action where
  /-- drive the reset line of the panel -/
  | reset (level : Level)
  /-- switch both regulated bias rails, to `millivolts` each -/
  | bias (enable : Bool) (order : RailOrder) (millivolts : UInt16)
  /-- drive the enable pin of a bias rail that one pin switches -/
  | biasPin (level : Level)
  /-- wait for at least so many milliseconds -/
  | waitMs (milliseconds : UInt32)
  /-- wait for at least so many microseconds -/
  | waitUs (microseconds : UInt32)
  /-- send one command with its parameters; `urgent` asks for it to go out now, not to be queued -/
  | write (opcode : UInt32) (parameters : List UInt8) (urgent : Bool)
  deriving DecidableEq, Repr

end DsiPanel
