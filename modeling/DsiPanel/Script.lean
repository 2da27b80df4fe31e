import DsiPanel.Action
import DsiPanel.Text.Record

/-!
# Power scripts

What happens to the reset line and the bias rails around the tables differs between panels only in
the steps and their timing, so it is data too: a script is a list of the steps below.
-/

set_option autoImplicit false

namespace DsiPanel

/-- One step of a power script. -/
inductive Step where
  /-- drive the reset line -/
  | reset (level : Level)
  /-- switch the regulated bias rails, to `millivolts` each -/
  | bias (enable : Bool) (order : RailOrder) (millivolts : UInt16)
  /-- drive the bias enable pin -/
  | biasPin (level : Level)
  /-- wait for so many milliseconds -/
  | delayMs (milliseconds : UInt32)
  deriving DecidableEq, Repr

/-- A power script is the list of its steps. -/
abbrev Script := List Step

namespace Step

/-- The one action that carries the step out. A wait stays in milliseconds, however short it is. -/
def action : Step → Action
  | .reset level => .reset level
  | .bias enable order millivolts => .bias enable order millivolts
  | .biasPin level => .biasPin level
  | .delayMs milliseconds => .waitMs milliseconds

/-- The step as a log line shows it. -/
def text : Step → String
  | .reset level => Text.tagged "Reset" level.name
  | .bias enable order millivolts =>
    Text.fields "Bias"
      [("enable", Text.flag enable), ("sequence", order.name),
        ("millivolts", millivolts.toNat.repr)]
  | .biasPin level => Text.tagged "BiasPin" level.name
  | .delayMs milliseconds => Text.tagged "DelayMs" milliseconds.toNat.repr

end Step

end DsiPanel
