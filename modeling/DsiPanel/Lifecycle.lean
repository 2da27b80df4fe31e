/-!
# The lifecycle of a panel

A panel is in one of three states, and four operations can be asked of it. Which operation is
accepted in which state is a table of its own, `Operation.accepts`: the operations themselves do
not ask again.

Bring-up is accepted while the panel displays, and then repeats the whole sequence. It is not
accepted while the panel sleeps: waking it is what `resume` is for.
-/

set_option autoImplicit false

namespace DsiPanel

/-- What is known about a panel. -/
inductive Lifecycle where
  /-- nothing is known, not even whether the panel has power -/
  | uninitialized
  /-- the panel has power and displays -/
  | active
  /-- the panel sleeps and its rails are off -/
  | suspended
  deriving DecidableEq, Repr, Inhabited

/-- The name of the state in an error. -/
def Lifecycle.name : Lifecycle → String
  | .uninitialized => "Uninitialized"
  | .active => "Active"
  | .suspended => "Suspended"

/-- What can be asked of a panel. -/
inductive Operation where
  /-- power up and set up the registers -/
  | bringUp
  /-- shut the registers down and power down -/
  | suspend
  /-- bring the panel up again after `suspend` -/
  | resume
  /-- read the registers that tell whether the panel is well -/
  | checkLiveness
  deriving DecidableEq, Repr

namespace Operation

/-- The name of the operation in an error and in a log line. -/
def name : Operation → String
  | .bringUp => "Initialize"
  | .suspend => "Suspend"
  | .resume => "Resume"
  | .checkLiveness => "CheckLiveness"

/-- Which operation is accepted in which state. -/
def accepts : Operation → Lifecycle → Bool
  | .bringUp, .uninitialized => true
  | .bringUp, .active => true
  | .suspend, .active => true
  | .resume, .suspended => true
  | .checkLiveness, .active => true
  | _, _ => false

end Operation

end DsiPanel
