import DsiPanel.Fault
import DsiPanel.Lifecycle
import DsiPanel.Script
import DsiPanel.Table.Entry
import DsiPanel.Text.Hex

/-!
# The journal

Everything a panel does leaves a line in the journal. A line is kept as what it reports, with the
values it is about, and only turned into words by `Line.text`; so a statement about the journal is
a statement about those values.
-/

set_option autoImplicit false

namespace DsiPanel.Journal

/-- How much a line matters. -/
inductive Severity where
  | trace
  | debug
  | warn
  deriving DecidableEq, Repr

/-- The name that stands in front of a line. -/
def Severity.name : Severity → String
  | .trace => "TRACE"
  | .debug => "DEBUG"
  | .warn => "WARN"

/-- One line of the journal. -/
inductive Line where
  /-- the walk of a table has come to this entry -/
  | reached (index : Nat) (entry : Entry)
  /-- the walk of a script has come to this step -/
  | attempted (step : Step)
  /-- a write of so many bytes is too long, and is not sent -/
  | oversized (register : UInt32) (length : Nat)
  /-- the panel was given a host -/
  | configured (panel : String)
  /-- the panel is brought up although it displays -/
  | repeated (panel : String)
  /-- the sequence of an operation begins -/
  | begun (panel : String) (operation : Operation)
  /-- the sequence of an operation is complete -/
  | completed (panel : String) (operation : Operation)
  /-- the sequence of an operation stopped at a fault -/
  | aborted (panel : String) (operation : Operation) (fault : Fault)
  /-- a register does not hold what it does in a healthy panel -/
  | mismatch (panel : String) (register : UInt32) (found expected : List UInt8)
  deriving DecidableEq, Repr

namespace Line

/-- How much the line matters. -/
def severity : Line → Severity
  | .reached .. | .attempted _ => .trace
  | .configured _ | .begun .. | .completed .. => .debug
  | .oversized .. | .repeated _ | .aborted .. | .mismatch .. => .warn

/-- The line in words. -/
def text : Line → String
  | .reached index entry => "entry " ++ index.repr ++ ": " ++ entry.text
  | .attempted step => "power step " ++ step.text
  | .oversized register length =>
    "register " ++ Text.hexRegister register ++ ": " ++ length.repr ++ " parameter bytes"
  | .configured panel => panel ++ ": configure"
  | .repeated panel => panel ++ ": initialize on active panel"
  | .begun panel operation => panel ++ ": " ++ operation.name ++ " +"
  | .completed panel operation => panel ++ ": " ++ operation.name ++ " -"
  | .aborted panel operation fault => panel ++ ": " ++ operation.name ++ " failed: " ++ fault.name
  | .mismatch panel register found expected =>
    panel ++ ": register " ++ Text.hexRegister register ++ " reads " ++ Text.hexBytes found ++
      ", expected " ++ Text.hexBytes expected

/-- The line with its severity in front. -/
def render (line : Line) : String :=
  line.severity.name ++ " " ++ line.text

end Line

end DsiPanel.Journal
